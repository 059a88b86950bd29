/-
  An authenticated decision under one storage failure of its approval flow.

  A challenge is used up by the attempt that fails; the retry carries a fresh one, and with it a new
  decision nonce.  Where the failed attempt has already recorded its approval, the retry's differs
  from it in the nonce and is refused: the run awaits a decision nobody can apply any more
  (`resume_completable_iff`).
-/
import CloudOpsAgent.Deployment.Resume
import CloudOpsAgent.Recovery.Approvals

namespace CloudOpsAgent

open ClientProg ClientProg.Prog Environment

section Challenges

open DurableApprovalFlow (approvalOf responseBound)
open AuthenticatedApprovalResumeService

variable [Sha256] {ι : Type}

/-- The interrupt of a proposal, as `request` returns it. -/
structure InterruptOf (interrupt : ApprovalInterrupt) (p : ActionProposal) : Prop where
  payload : interrupt.payload = buildApprovalPayload p
  requestHash : interrupt.requestHash = approvalRequestHash (buildApprovalPayload p)

/-- The challenge can be consumed, the clock of the check showing `t`. -/
structure Consumable (c : Checkpoint) (principal : AuthenticatedJudgePrincipal) (challenge : String)
    (t : Time) : Prop where
  presented : challengeMatches c principal challenge
  unexpired : ∃ expiresAt, expiry c = some expiresAt ∧ t < expiresAt

/-- A checkpoint that still holds the interrupt, and has changed in its challenge only. -/
structure SameInterrupt (c c' : Checkpoint) : Prop where
  lastSafeState : c'.lastSafeState = c.lastSafeState
  interruptId : c'.resumeMetadata.lookup "approval_interrupt_id" =
    c.resumeMetadata.lookup "approval_interrupt_id"
  requestHash : c'.resumeMetadata.lookup "approval_request_hash" =
    c.resumeMetadata.lookup "approval_request_hash"

theorem SameInterrupt.trans {c c' c'' : Checkpoint} (h : SameInterrupt c c')
    (h' : SameInterrupt c' c'') : SameInterrupt c c'' :=
  ⟨h'.lastSafeState.trans h.lastSafeState, h'.interruptId.trans h.interruptId,
    h'.requestHash.trans h.requestHash⟩

theorem ApprovalRecords.checkpointId {s : Store} {response : ApprovalResumeRequest}
    {p : ActionProposal} {run : Run} {c : Checkpoint} {a : Option Approval}
    (h : ApprovalRecords s response p run c a) : c.runId = response.runId := by
  have hkey := Table.key_of_get h.checkpoint
  exact hkey

namespace AuthenticatedApprovalResumeService

variable {e : Environment} {who : ι} {fault : Fault} {n : Nat} {st : Solo ι}
  {interrupt : ApprovalInterrupt} {decision : ApprovalDecision}
  {principal : AuthenticatedJudgePrincipal} {challenge : String} {p : ActionProposal} {run : Run}
  {c : Checkpoint} {a : Option Approval}

theorem challengeReady_iff : challengeReady interrupt c ↔ c.lastSafeState = .awaitingApproval ∧
    (c.resumeMetadata.lookup "approval_interrupt_id").bind Json.str? = some interrupt.interruptId ∧
    (c.resumeMetadata.lookup "approval_request_hash").bind Json.str? =
      some interrupt.requestHash.hex := by
  simp only [challengeReady, Bool.and_eq_true, beq_iff_eq, and_assoc]

theorem ready_of_same {c' : Checkpoint} (h : SameInterrupt c c')
    (hc : challengeReady interrupt c) : challengeReady interrupt c' := by
  obtain ⟨h1, h2, h3⟩ := challengeReady_iff.mp hc
  refine challengeReady_iff.mpr ⟨h.lastSafeState.trans h1, ?_, ?_⟩
  · rw [h.interruptId, h2]
  · rw [h.requestHash, h3]

/-- Every response for the interrupt in the checkpoint is bound. -/
theorem responseBound_of_ready (hof : InterruptOf interrupt p) (hc : challengeReady interrupt c) :
    responseBound (responseOf interrupt decision principal challenge) p c := by
  obtain ⟨-, h2, h3⟩ := challengeReady_iff.mp hc
  have hpayload := hof.payload
  unfold responseBound
  simp only [Bool.and_eq_true, beq_iff_eq]
  refine ⟨⟨⟨⟨⟨⟨?_, ?_⟩, ?_⟩, ?_⟩, hof.requestHash⟩, h2⟩, ?_⟩
  · simp only [responseOf, hpayload]
    rfl
  · simp only [responseOf, hpayload]
    rfl
  · simp only [responseOf, hpayload]
    rfl
  · simp only [responseOf, hpayload]
    rfl
  · rw [h3, hof.requestHash]

/-- A checkpoint that holds the interrupt may be saved again. -/
theorem not_active (hc : challengeReady interrupt c) :
    ¬(c.lastSafeState = .executing ∨ c.lastSafeState = .verifying) := by
  rw [(challengeReady_iff.mp hc).1]
  decide

theorem expiry_eq {t : Time} (ht : t ≤ Time.datetimeMax)
    (hc : c.resumeMetadata.lookup EXPIRES_AT_KEY = some (.str (Time.isoformat t))) :
    expiry c = some t := by
  have htext : (c.resumeMetadata.lookup EXPIRES_AT_KEY).bind Json.str? =
      some (Time.isoformat t) := by
    rw [hc]
    rfl
  rw [expiry, htext, Option.bind_some, Time.fromisoformat_isoformat ht]

/-- A fresh challenge is stored, and can be consumed before it expires. -/
theorem wp_issue (cfg : ResumeServiceConfig)
    (h : ApprovalRecords st.world.store (responseOf interrupt decision principal challenge) p run c a)
    (hready : challengeReady interrupt c) (hlength : 32 ≤ (e.nonces (st.tick + 1)).length)
    (hstripped : isStripped (e.nonces (st.tick + 1)))
    (hrange : e.now (st.tick + 2) + seconds cfg.challengeTtlSeconds ≤ Time.datetimeMax) :
    e.Wp who (issue cfg interrupt principal) (fun o st' =>
      o = .ok ⟨e.nonces (st.tick + 1), e.now (st.tick + 2) + seconds cfg.challengeTtlSeconds⟩ ∧
      ∃ c', SameInterrupt c c' ∧
        (∀ t, t < e.now (st.tick + 2) + seconds cfg.challengeTtlSeconds →
          Consumable c' principal (e.nonces (st.tick + 1)) t) ∧
        ApprovalRecords st'.world.store (responseOf interrupt decision principal challenge) p run c'
          a) st := by
  have hget : (Op.getCheckpoint interrupt.payload.runId).run st.world.store =
      .ok (some c, st.world.store) := by
    have hc : st.world.store.checkpoints.get interrupt.payload.runId = some c := h.checkpoint
    rw [← hc]
    rfl
  have hvalue : ¬((e.nonces (st.tick + 1)).length < 32 ∨ (!isStripped (e.nonces (st.tick + 1))) = true) := by
    rw [hstripped]
    simpa using hlength
  obtain ⟨next, s', hvalid, hnext, hsave, hrecords⟩ := h.saveNext
    (challenged c principal (e.nonces (st.tick + 1)) (e.now (st.tick + 2))
      (e.now (st.tick + 2) + seconds cfg.challengeTtlSeconds))
    h.checkpointId rfl (not_active hready) rfl rfl rfl rfl rfl rfl
  unfold issue
  refine wp_op_bind hget ?_
  dsimp only
  rw [hready]
  refine wp_nonce_bind ?_
  split
  · rename_i hbad
    exact absurd hbad hvalue
  refine wp_clock_bind ?_
  split
  · rename_i hbad
    exact absurd hbad (Nat.not_lt.mpr hrange)
  simp only [Solo.next_tick, Solo.applied_tick, Nat.add_assoc, Nat.reduceAdd]
  rw [hvalid]
  refine wp_op_bind hsave (wp_ret ⟨rfl, next, ?_, fun t ht => ⟨?_, _, ?_, ht⟩, hrecords⟩)
  · refine ⟨?_, ?_, ?_⟩ <;> rw [hnext]
    · rfl
    · simp [challenged, CHALLENGE_DIGEST_KEY, PRINCIPAL_DIGEST_KEY, EXPIRES_AT_KEY, CONSUMED_KEY]
    · simp [challenged, CHALLENGE_DIGEST_KEY, PRINCIPAL_DIGEST_KEY, EXPIRES_AT_KEY, CONSUMED_KEY]
  · simp [challengeMatches, hnext, challenged, CHALLENGE_DIGEST_KEY, PRINCIPAL_DIGEST_KEY,
      EXPIRES_AT_KEY, CONSUMED_KEY, Json.bool?, Json.str?]
  · refine expiry_eq hrange ?_
    simp [hnext, challenged, CHALLENGE_DIGEST_KEY, PRINCIPAL_DIGEST_KEY, EXPIRES_AT_KEY,
      CONSUMED_KEY]

/-- A challenge that can be consumed is, and nothing else changes. -/
theorem fwp_consume
    (h : ApprovalRecords st.world.store (responseOf interrupt decision principal challenge) p run c a)
    (hready : challengeReady interrupt c)
    (hconsumable : Consumable c principal challenge (e.now (st.tick + 1))) :
    e.FWp who fault (consume interrupt principal challenge) (some (n + 2)) (fun x =>
      x.outcome = some (.ok ()) ∧ x.left = some n ∧ x.final.tick = st.tick + 4 ∧
      ∃ c', SameInterrupt c c' ∧ ApprovalRecords x.final.world.store
        (responseOf interrupt decision principal challenge) p run c' a) st := by
  have hget : (Op.getCheckpoint interrupt.payload.runId).run st.world.store =
      .ok (some c, st.world.store) := by
    have hc : st.world.store.checkpoints.get interrupt.payload.runId = some c := h.checkpoint
    rw [← hc]
    rfl
  obtain ⟨next, s', hvalid, hnext, hsave, hrecords⟩ := h.saveNext
    (consumed c (e.now (st.tick + 2))) h.checkpointId rfl (not_active hready) rfl rfl rfl rfl rfl rfl
  obtain ⟨hpresented, expiresAt, hexpiry, hunexpired⟩ := hconsumable
  unfold consume
  refine fwp_later_bind hget ?_
  dsimp only
  rw [hexpiry]
  dsimp only
  rw [hpresented]
  refine fwp_clock_bind ?_
  split
  · rename_i hbad
    exact absurd hbad (Nat.not_le.mpr hunexpired)
  refine fwp_clock_bind ?_
  simp only [Solo.next_tick, Solo.applied_tick, Nat.add_assoc, Nat.reduceAdd]
  rw [hvalid]
  refine fwp_later_bind hsave (fwp_ret ⟨rfl, rfl, rfl, next, ⟨?_, ?_, ?_⟩, hrecords⟩) <;> rw [hnext]
  · rfl
  · simp [consumed, CONSUMED_KEY]
  · simp [consumed, CONSUMED_KEY]

/-! ## The retry -/

/-- The decision of an earlier challenge is looked at with a later one. -/
theorem records_later {s : Store} (h : ApprovalRecords s
    (responseOf interrupt decision principal challenge) p run c a) (later : String) :
    ApprovalRecords s (responseOf interrupt decision principal later) p run c a :=
  ⟨h.proposal, h.run, h.checkpoint, h.approval⟩

/-- A well-formed challenge that is consumed before it expires, at a time the run was not updated
    after: issued under `e`, used under `e'`. -/
structure Fresh (cfg : ResumeServiceConfig) (e e' : Environment) (run : Run) : Prop where
  length : 32 ≤ (e.nonces 1).length
  stripped : isStripped (e.nonces 1)
  range : e.now 2 + seconds cfg.challengeTtlSeconds ≤ Time.datetimeMax
  unexpired : e'.now 1 < e.now 2 + seconds cfg.challengeTtlSeconds
  updated : run.updatedAt ≤ e'.now 0

/-- Issue a challenge under `e` and resume with it under `e'`, both without a fault. -/
def retried (cfg : ResumeServiceConfig) (runtime : PrimaryAgentRuntime)
    (interrupt : ApprovalInterrupt) (decision : ApprovalDecision)
    (principal : AuthenticatedJudgePrincipal) (e e' : Environment) (who : ι) (w : World ι) :
    World ι :=
  let issued := (issue cfg interrupt principal).run (e.respond who) ⟨w, 0⟩
  match issued.1 with
  | .ok fresh => ((resume runtime interrupt decision principal fresh.value).run (e'.respond who)
      ⟨issued.2.world, 0⟩).2.world
  | .error _ => issued.2.world

/-- **The retry applies the decision exactly if no other one is recorded.** -/
theorem retried_applies (cfg : ResumeServiceConfig) (runtime : PrimaryAgentRuntime) (who : ι)
    {e e' : Environment} {w : World ι} (h : ApprovalRecords w.store
      (responseOf interrupt decision principal challenge) p run c a) (hawaits : AwaitsDecision p run)
    (hof : InterruptOf interrupt p) (hready : challengeReady interrupt c)
    (hfresh : Fresh cfg e e' run) :
    (∃ run', (retried cfg runtime interrupt decision principal e e' who w).store.runs.get
        interrupt.payload.runId = some run' ∧ run'.state = decision.targetState) ↔
      Agrees (responseOf interrupt decision principal (e.nonces 1)) p a := by
  have hissue : e.Wp who (issue cfg interrupt principal) _ ⟨w, 0⟩ :=
    wp_issue cfg h hready hfresh.length hfresh.stripped hfresh.range
  obtain ⟨ho, c1, hsame1, hconsumable, h1⟩ := hissue
  unfold retried
  dsimp only
  rw [ho]
  dsimp only
  generalize ((issue cfg interrupt principal).run (e.respond who) ⟨w, 0⟩).2 = st1 at h1
  have hready1 := ready_of_same hsame1 hready
  have hrun {k : Nat} : run.updatedAt ≤ e'.now k := hfresh.updated.trans (e'.now_mono (Nat.zero_le k))
  have hresume : e'.Wp who (resume runtime interrupt decision principal (e.nonces 1))
      (fun _ st' => (∃ run', st'.world.store.runs.get interrupt.payload.runId = some run' ∧
        run'.state = decision.targetState) ↔
        Agrees (responseOf interrupt decision principal (e.nonces 1)) p a) ⟨st1.world, 0⟩ := by
    refine wp_of_fwp .late 10 (fwp_bind (fwp_consume
      (records_later h1 (e.nonces 1)) hready1 (hconsumable _ hfresh.unexpired))
      (fun _ l st2 h2 => ?_) (fun x l st2 h2 => by cases h2.1) fun l st2 h2 => by cases h2.1)
    obtain ⟨-, hl, -, c2, hsame2, h2⟩ := h2
    subst hl
    have hbound : responseBound (responseOf interrupt decision principal (e.nonces 1)) p c2 :=
      responseBound_of_ready hof (ready_of_same hsame2 hready1)
    by_cases hagrees : Agrees (responseOf interrupt decision principal (e.nonces 1)) p a
    · refine FWp.mono (fun x hx => ?_)
        (DurableApprovalFlow.fwp_resume runtime h2 hawaits ⟨hbound, hagrees, hrun⟩)
      obtain ⟨⟨run', c', a', h', -, -, -, hrun', -, -⟩, -, hl⟩ := hx
      have hone := unrecorded_le a
      have hstate := hrun' (show 5 + unrecorded a ≤ 8 by omega)
      exact ⟨hl le_rfl, fun o _ => iff_of_true ⟨run', h'.run, hstate⟩ hagrees⟩
    · refine FWp.mono (fun x hx => ?_) (DurableApprovalFlow.fwp_resume_refused runtime h2 hawaits
        fun happ => hagrees happ.agrees)
      obtain ⟨a', h', -, -, hl⟩ := hx
      refine ⟨hl le_rfl, fun o _ => iff_of_false (fun hr => ?_) hagrees⟩
      obtain ⟨run', hr, hstate⟩ := hr
      have hr' : x.final.world.store.runs.get interrupt.payload.runId = some run := h'.run
      rw [hr'] at hr
      cases hr
      rw [hawaits.run] at hstate
      cases decision <;> cases hstate
  exact hresume

/-! ## A decision after a fault -/

/-- **A retry completes what the fault left**: if the run still awaits approval after a `resume`
    whose approval flow suffers the fault at its operation `n`, issuing a fresh challenge and
    resuming with it brings the run to the decision's target state. -/
def Completable (cfg : ResumeServiceConfig) (runtime runtime' : PrimaryAgentRuntime)
    (interrupt : ApprovalInterrupt) (decision : ApprovalDecision)
    (principal : AuthenticatedJudgePrincipal) (challenge : String) (e e' e'' : Environment)
    (who who' : ι) (fault : Fault) (n : Nat) (w : World ι) : Prop :=
  let x := e.faulty who fault (resume runtime interrupt decision principal challenge) (some (n + 2))
    ⟨w, 0⟩
  (∃ run, x.final.world.store.runs.get interrupt.payload.runId = some run ∧
    run.state = .awaitingApproval) →
  ∃ run, (retried cfg runtime' interrupt decision principal e' e'' who'
      x.final.world).store.runs.get interrupt.payload.runId = some run ∧
    run.state = decision.targetState

/-- The first attempt moves the run. -/
def Moves (e : Environment) (fault : Fault) (n : Nat) (response : ApprovalResumeRequest)
    (p : ActionProposal) (run : Run) (a : Option Approval) : Prop :=
  Agrees response p a ∧ run.updatedAt ≤ e.now (9 + unrecorded a) ∧
    5 + unrecorded a ≤ fault.effective n

/-- A decision is recorded that the response of the retry differs from: an earlier one, or that of
    the first attempt, which carries the nonce of its own challenge. -/
def Conflicts (fault : Fault) (n : Nat) (interrupt : ApprovalInterrupt) (decision : ApprovalDecision)
    (principal : AuthenticatedJudgePrincipal) (challenge fresh : String) (p : ActionProposal)
    (a : Option Approval) : Prop :=
  ¬Agrees (responseOf interrupt decision principal fresh) p a ∨
    a = none ∧ 5 ≤ fault.effective n ∧ digest challenge ≠ digest fresh

omit [Sha256] in
theorem agrees_none (response : ApprovalResumeRequest) : Agrees response p none :=
  fun x hx => by cases hx

/-- The approval of one challenge agrees with the response of another if their digests do. -/
theorem agrees_approvalOf (t : Time) (fresh : String) :
    Agrees (responseOf interrupt decision principal fresh) p
        (some (approvalOf (responseOf interrupt decision principal challenge) p t)) ↔
      digest challenge = digest fresh := by
  refine ⟨fun h => ?_, fun h x hx => ?_⟩
  · have hnonce : "freshness:" ++ digest challenge = "freshness:" ++ digest fresh :=
      congrArg Approval.decisionNonce (h _ rfl)
    have hlist := congrArg String.toList hnonce
    rw [String.toList_append, String.toList_append] at hlist
    exact String.toList_inj.mp (List.append_cancel_left hlist)
  · cases hx
    simp only [approvalOf, responseOf, h]

/-- What is recorded after the first attempt stands in the way of the retry if there is a conflict. -/
theorem agrees_iff_not_conflicts {a' : Option Approval} {fresh : String}
    (hbefore : fault.effective n < 4 + unrecorded a → a' = a)
    (hrefused : ¬Agrees (responseOf interrupt decision principal challenge) p a → a' = a)
    (hrecorded : Agrees (responseOf interrupt decision principal challenge) p a →
      4 + unrecorded a ≤ fault.effective n →
      ∃ t, a' = some (approvalOf (responseOf interrupt decision principal challenge) p t)) :
    Agrees (responseOf interrupt decision principal fresh) p a' ↔
      ¬Conflicts fault n interrupt decision principal challenge fresh p a := by
  by_cases hagrees : Agrees (responseOf interrupt decision principal challenge) p a
  · cases a with
    | none =>
      have hnone : ¬Conflicts fault n interrupt decision principal challenge fresh p none ↔
          (5 ≤ fault.effective n → digest challenge = digest fresh) := by
        simp [Conflicts, agrees_none]
      rw [hnone]
      by_cases hk : fault.effective n < 5
      · obtain rfl := hbefore hk
        exact iff_of_true (agrees_none _) fun h5 => by omega
      · obtain ⟨t, rfl⟩ := hrecorded hagrees (by simp [unrecorded]; omega)
        rw [agrees_approvalOf]
        exact ⟨fun h _ => h, fun h => h (by omega)⟩
    | some y =>
      obtain ⟨u, rfl⟩ : ∃ u, y = approvalOf (responseOf interrupt decision principal challenge) p u :=
        ⟨y.decidedAt, hagrees y rfl⟩
      have hsome : ¬Conflicts fault n interrupt decision principal challenge fresh p
          (some (approvalOf (responseOf interrupt decision principal challenge) p u)) ↔
            digest challenge = digest fresh := by
        have hdigest : Agrees (responseOf interrupt decision principal fresh) p
            (some (approvalOf (responseOf interrupt decision principal challenge) p u)) ↔
              digest challenge = digest fresh := agrees_approvalOf u fresh
        rw [← hdigest]
        simp [Conflicts]
      rw [hsome]
      by_cases hk : fault.effective n < 4
      · rw [hbefore hk, agrees_approvalOf]
      · obtain ⟨t, rfl⟩ := hrecorded hagrees (by simp [unrecorded]; omega)
        rw [agrees_approvalOf]
  · obtain rfl := hrefused hagrees
    cases a' with
    | none => exact absurd (agrees_none _) hagrees
    | some y => simp [Conflicts]

/-- The first attempt: it moves the run, or leaves it as it was with what stands in the way. -/
theorem fwp_first (runtime : PrimaryAgentRuntime) {w : World ι} (fresh : String)
    (h : ApprovalRecords w.store (responseOf interrupt decision principal challenge) p run c a)
    (hawaits : AwaitsDecision p run) (hof : InterruptOf interrupt p)
    (hready : challengeReady interrupt c) (hconsumable : Consumable c principal challenge (e.now 1)) :
    e.FWp who fault (resume runtime interrupt decision principal challenge) (some (n + 2))
      (fun x => ∃ run' c' a', ApprovalRecords x.final.world.store
          (responseOf interrupt decision principal challenge) p run' c' a' ∧
        (Moves e fault n (responseOf interrupt decision principal challenge) p run a →
          run'.state = decision.targetState) ∧
        (¬Moves e fault n (responseOf interrupt decision principal challenge) p run a →
          run' = run ∧ challengeReady interrupt c' ∧
          (Agrees (responseOf interrupt decision principal fresh) p a' ↔
            ¬Conflicts fault n interrupt decision principal challenge fresh p a))) ⟨w, 0⟩ := by
  refine fwp_bind (fwp_consume h hready hconsumable)
    (fun _ l st1 h1 => ?_) (fun x l st1 h1 => by cases h1.1) fun l st1 h1 => by cases h1.1
  obtain ⟨-, hl, htick, c1, hsame, h1⟩ := h1
  subst hl
  have hready1 := ready_of_same hsame hready
  have hbound : responseBound (responseOf interrupt decision principal challenge) p c1 :=
    responseBound_of_ready hof hready1
  have htick9 : st1.tick + 5 + unrecorded a = 9 + unrecorded a := by
    have : st1.tick = 0 + 4 := htick
    omega
  by_cases happ : Applicable (responseOf interrupt decision principal challenge) p run c1 a
      (e.now (st1.tick + 5 + unrecorded a))
  · have hmoves : Moves e fault n (responseOf interrupt decision principal challenge) p run a ↔
        5 + unrecorded a ≤ fault.effective n :=
      ⟨fun h => h.2.2, fun h => ⟨happ.agrees, htick9 ▸ happ.updated, h⟩⟩
    refine FWp.mono (fun x hx => ?_) (DurableApprovalFlow.fwp_resume runtime h1 hawaits happ)
    obtain ⟨⟨run', c', a', h', hbefore, hafter, hrun, hrun', hc, -⟩, -, -⟩ := hx
    refine ⟨run', c', a', h', fun hm => hrun' (hmoves.mp hm), fun hm => ?_⟩
    rw [hmoves] at hm
    obtain rfl := hc (by omega)
    exact ⟨hrun (by omega), hready1, agrees_iff_not_conflicts hbefore
      (fun hno => absurd happ.agrees hno) fun _ hk => hafter hk⟩
  · refine FWp.mono (fun x hx => ?_)
      (DurableApprovalFlow.fwp_resume_refused runtime h1 hawaits happ)
    obtain ⟨a', h', ⟨hbefore, hrefused, hrecorded⟩, -, -⟩ := hx
    refine ⟨run, c1, a', h', fun hm => ?_, fun _ => ⟨rfl, hready1, ?_⟩⟩
    · exact absurd ⟨hbound, hm.1, htick9 ▸ hm.2.1⟩ happ
    · exact agrees_iff_not_conflicts hbefore (fun hno => hrefused fun hb => hno hb.2)
        (hrecorded hbound)

/-- A run that was not moved is brought to its target by the retry, unless there is a conflict. -/
theorem completable_of_not_moves (cfg : ResumeServiceConfig)
    (runtime runtime' : PrimaryAgentRuntime) {e' e'' : Environment} {who' : ι} {w : World ι}
    (h : ApprovalRecords w.store (responseOf interrupt decision principal challenge) p run c a)
    (hawaits : AwaitsDecision p run) (hof : InterruptOf interrupt p)
    (hready : challengeReady interrupt c) (hconsumable : Consumable c principal challenge (e.now 1))
    (hfresh : Fresh cfg e' e'' run)
    (hm : ¬Moves e fault n (responseOf interrupt decision principal challenge) p run a) :
    Completable cfg runtime runtime' interrupt decision principal challenge e e' e'' who who' fault n
      w ↔ ¬Conflicts fault n interrupt decision principal challenge (e'.nonces 1) p a := by
  have hfirst : e.FWp who fault (resume runtime interrupt decision principal challenge)
      (some (n + 2)) _ ⟨w, 0⟩ := fwp_first runtime (e'.nonces 1) h hawaits hof hready hconsumable
  obtain ⟨run', c', a', h', -, hkept⟩ := hfirst
  obtain ⟨rfl, hready', hagrees⟩ := hkept hm
  have hretry := retried_applies cfg runtime' who' h' hawaits hof hready' hfresh
  have hstill : ∃ run'', (e.faulty who fault (resume runtime interrupt decision principal
      challenge) (some (n + 2)) ⟨w, 0⟩).final.world.store.runs.get interrupt.payload.runId =
        some run'' ∧ run''.state = .awaitingApproval := ⟨run', h'.run, hawaits.run⟩
  constructor
  · intro hc
    exact hagrees.mp (hretry.mp (hc hstill))
  · intro hno _
    exact hretry.mpr (hagrees.mpr hno)

/-- **When an authenticated decision can be completed**: unless the first attempt moves the run, the
    decision that is recorded after it must be the one of the retry. -/
theorem resume_completable_iff (cfg : ResumeServiceConfig) (runtime runtime' : PrimaryAgentRuntime)
    {e' e'' : Environment} {who' : ι} {w : World ι} (h : ApprovalRecords w.store
      (responseOf interrupt decision principal challenge) p run c a) (hawaits : AwaitsDecision p run)
    (hof : InterruptOf interrupt p) (hready : challengeReady interrupt c)
    (hconsumable : Consumable c principal challenge (e.now 1)) (hfresh : Fresh cfg e' e'' run)
    (n : Nat) : Completable cfg runtime runtime' interrupt decision principal challenge e e' e'' who
        who' fault n w ↔
      (Conflicts fault n interrupt decision principal challenge (e'.nonces 1) p a →
        Moves e fault n (responseOf interrupt decision principal challenge) p run a) := by
  by_cases hm : Moves e fault n (responseOf interrupt decision principal challenge) p run a
  · refine iff_of_true (fun hstill => ?_) fun _ => hm
    have hfirst : e.FWp who fault (resume runtime interrupt decision principal challenge)
        (some (n + 2)) _ ⟨w, 0⟩ :=
      fwp_first runtime (e'.nonces 1) h hawaits hof hready hconsumable
    obtain ⟨run', c', a', h', hmoved, -⟩ := hfirst
    obtain ⟨run'', hget, hawaiting⟩ := hstill
    have hsame : some run'' = some run' := hget.symm.trans h'.run
    cases hsame
    rw [hmoved hm] at hawaiting
    cases decision <;> cases hawaiting
  · rw [completable_of_not_moves cfg runtime runtime' h hawaits hof hready hconsumable hfresh hm]
    exact ⟨fun hno hc => absurd hc hno, fun himp hc => hm (himp hc)⟩

end AuthenticatedApprovalResumeService

end Challenges

namespace Sample

open AuthenticatedApprovalResumeService

section Challenged

variable [Sha256]

def interrupt : ApprovalInterrupt :=
  ⟨"interrupt", buildApprovalPayload proposal, requestHash, uid 2, uid 3, false⟩

def judge : AuthenticatedJudgePrincipal := {}

def firstChallenge : String := "0123456789abcdef0123456789abcdef"
def secondChallenge : String := "fedcba9876543210fedcba9876543210"

/-- The interrupt's checkpoint, with a challenge that expires after five minutes. -/
def challengedCheckpoint : Checkpoint where
  toCheckpointFields := challenged interrupted judge firstChallenge 0 (seconds 300)
  valid := rfl

def challengedStore : Store := { awaitingStore with
  checkpoints := (∅ : Table _).put challengedCheckpoint }

theorem challengedRecords : ApprovalRecords challengedStore
    (responseOf interrupt .approved judge firstChallenge) proposal awaiting challengedCheckpoint
      none := ⟨rfl, rfl, rfl, rfl⟩

theorem interruptOf : InterruptOf interrupt proposal := ⟨rfl, rfl⟩

omit [Sha256] in
theorem awaitsDecision : AwaitsDecision proposal awaiting := ⟨rfl, rfl⟩

theorem challengedReady : challengeReady interrupt challengedCheckpoint := by
  refine challengeReady_iff.mpr ⟨rfl, ?_, ?_⟩
  · rfl
  · rfl

theorem consumable {t : Time} (ht : t < seconds 300) :
    Consumable challengedCheckpoint judge firstChallenge t := by
  refine ⟨?_, seconds 300, ?_, ht⟩
  · simp [challengeMatches, challengedCheckpoint, challenged, CHALLENGE_DIGEST_KEY,
      PRINCIPAL_DIGEST_KEY, EXPIRES_AT_KEY, CONSUMED_KEY, Json.bool?, Json.str?]
  · refine expiry_eq (by decide) ?_
    simp [challengedCheckpoint, challenged, CHALLENGE_DIGEST_KEY, PRINCIPAL_DIGEST_KEY,
      EXPIRES_AT_KEY, CONSUMED_KEY]

/-- Where the second challenge is issued and used. -/
def challenges : Environment := { environment 0 acknowledges with nonces := fun _ => secondChallenge }

def serviceConfig : ResumeServiceConfig := { ttl_ok := by decide }

omit [Sha256] in
theorem freshChallenge : Fresh serviceConfig challenges challenges awaiting where
  length := by decide
  stripped := by decide
  range := show (0 + 2 + 300 * 1000000 : Nat) ≤ 315537897599999999 by omega
  unexpired := show (0 + 1 : Nat) < 0 + 2 + 300 * 1000000 by omega
  updated := Nat.zero_le _

end Challenged

attribute [local instance] Sha256.standard in
theorem challenges_differ : AuthenticatedApprovalResumeService.digest firstChallenge ≠
    AuthenticatedApprovalResumeService.digest secondChallenge := by decide +kernel

attribute [local instance] Sha256.standard in
/-- The approval is recorded, its transition is not: the retry's approval has another nonce. -/
theorem resume_not_completable : ¬Completable serviceConfig ⟨uid 4, 100⟩ ⟨uid 4, 100⟩ interrupt
    .approved judge firstChallenge (environment 0 acknowledges) challenges challenges 0 0
    checkpointFails 5 ⟨challengedStore, []⟩ := by
  have hlater : ((environment 0 acknowledges).now 1) < seconds 300 :=
    show (0 + 1 : Nat) < 300 * 1000000 by omega
  rw [completable_of_not_moves (w := ⟨challengedStore, []⟩) serviceConfig ⟨uid 4, 100⟩ ⟨uid 4, 100⟩
    challengedRecords awaitsDecision interruptOf challengedReady (consumable hlater) freshChallenge
    fun hm => absurd hm.2.2 (by decide)]
  exact not_not.mpr (.inr ⟨rfl, by decide, challenges_differ⟩)

attribute [local instance] Sha256.standard in
/-- Without an approval recorded, the retry completes the decision. -/
theorem resume_completable_sample : Completable serviceConfig ⟨uid 4, 100⟩ ⟨uid 4, 100⟩ interrupt
    .approved judge firstChallenge (environment 0 acknowledges) challenges challenges 0 0
    checkpointFails 4 ⟨challengedStore, []⟩ := by
  have hlater : ((environment 0 acknowledges).now 1) < seconds 300 :=
    show (0 + 1 : Nat) < 300 * 1000000 by omega
  refine (resume_completable_iff (w := ⟨challengedStore, []⟩) serviceConfig ⟨uid 4, 100⟩ ⟨uid 4, 100⟩
    challengedRecords awaitsDecision interruptOf challengedReady (consumable hlater) freshChallenge 4).mpr
    fun hc => ?_
  rcases hc with hc | hc
  · exact absurd (agrees_none _) hc
  · exact absurd hc.2.1 (by decide)

end Sample

end CloudOpsAgent
