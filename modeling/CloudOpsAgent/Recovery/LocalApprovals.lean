/-
  How often a local run that awaits approval can be asked about.

  A call that is refused, or that asks again, leaves the run as it was (`Refused`): it still awaits
  approval, undecided, with its evidence and its proposal.  It may leave an audit event behind, though,
  and a run has a bounded number of these.  `request_approval` reports failure where its event is not
  accepted, so a trail without room is the end of the run.  `refused_usable_iff` says how much room the
  way to success takes: five events.
-/
import CloudOpsAgent.Nz.Sha256
import CloudOpsAgent.Recovery.LocalProgress

namespace CloudOpsAgent

open ClientProg ClientProg.Prog LocalEnvironment LocalHitlExecutionFlow

section Refusals

variable [Sha256] {ι : Type}

/-! ## A run that awaits approval -/

/-- Run and checkpoint of an undecided proposal. -/
structure AwaitsLocal (run : Run) (c : Checkpoint) (ev : ResourceEvidence)
    (p : RemediationProposal) : Prop where
  state : run.state = .awaitingApproval
  evidence : c.resourceEvidence = some ev
  proposal : c.remediationProposal = some p
  bound : prerequisitesBound run ev p
  status : p.status = .awaitingApproval
  undecided : c.localApproval = none

/-- The request record of a proposal, for an operator session and a nonce, between two times. -/
structure Asks (p : RemediationProposal) (session : String) (nonceHash : Sha256Digest) (t u : Time)
    (req : LocalApprovalRequestRecord) : Prop where
  runId : req.runId = p.runId
  correlationId : req.correlationId = p.correlationId
  proposalId : req.proposalId = p.proposalId
  proposalHash : req.proposalHash = p.proposalHash
  evidenceHash : req.evidenceHash = p.evidenceHash
  version : req.proposalVersion = p.version
  operation : req.operationType = p.operationType
  targetType : req.targetResourceType = p.targetResourceType
  targetId : req.targetResourceId = p.targetResourceId
  session : req.actorSessionId = session
  nonceHash : req.decisionNonceHash = nonceHash
  requestedAt : req.requestedAt = t
  expiresAt : req.expiresAt = u

theorem LocalApprovalRequestRecord.create_ok {id : UUID} {p : RemediationProposal} {s : String}
    {h : Sha256Digest} {t u : Time} {req : LocalApprovalRequestRecord}
    (hc : create id p s h t u = .ok req) : Asks p s h t u req := by
  unfold create at hc
  split at hc
  · cases hc
  split at hc
  · cases hc
  split at hc
  · cases hc
  split at hc
  · cases hc
    exact ⟨rfl, rfl, rfl, rfl, rfl, rfl, rfl, rfl, rfl, rfl, rfl, rfl, rfl⟩
  · cases hc

theorem LocalApprovalRequestRecord.create_of_awaiting {p : RemediationProposal}
    (hgate : p.authorityClass = .planAndConfirm) (hs : p.status = .awaitingApproval) {t u : Time}
    (hu : u ≤ p.expiresAt) (ht : t < u) (id : UUID) (s : String) (h : Sha256Digest) :
    ∃ req, create id p s h t u = .ok req := by
  unfold create
  rw [if_neg (not_not.mpr hgate), if_neg (not_not.mpr hs), if_neg (not_lt.mpr hu), dif_pos ht]
  exact ⟨_, rfl⟩

/-- A run whose approval is recorded and applied, not yet claimed. -/
structure ApprovedLocal (run : Run) (c : Checkpoint) (ev : ResourceEvidence)
    (p : RemediationProposal) (a : LocalApprovalDecisionRecord) : Prop where
  state : run.state = .approved
  evidence : c.resourceEvidence = some ev
  proposal : c.remediationProposal = some p
  bound : prerequisitesBound run ev p
  approval : c.localApproval = some a
  approved : a.decision = .approved
  unclaimed : c.localExecutionIntent = none

/-- The answer of a human who is shown a challenge. -/
def LocalApprovalChallenge.answer (ch : LocalApprovalChallenge) (d : ApprovalDecision) :
    LocalDecisionRequest where
  requestId := ch.request.requestId
  runId := ch.request.runId
  proposalId := ch.request.proposalId
  requestHash := ch.request.requestHash
  proposalHash := ch.request.proposalHash
  evidenceHash := ch.request.evidenceHash
  proposalVersion := ch.request.proposalVersion
  decision := d
  decisionNonce := ch.decisionNonce

section Checkpoints

variable {c : Checkpoint} {ev : ResourceEvidence} {p : RemediationProposal} {run : Run}

namespace AwaitsLocal

theorem loaded (h : AwaitsLocal run c ev p) :
    loadedOf (some run) (some c) = .succeeded ⟨run, c, ev, p⟩ := by
  simp only [loadedOf, h.evidence, h.proposal]
  exact if_pos h.bound

theorem unclaimed (h : AwaitsLocal run c ev p) : c.localExecutionIntent = none ∧
    c.localExecutionReceipt = none ∧ c.localVerification = none := by
  obtain ⟨hv, hr, hi, -⟩ := c.chain
  have hintent : c.localExecutionIntent = none := by
    rw [h.undecided] at hi
    simpa using hi
  have hreceipt : c.localExecutionReceipt = none := by
    rw [hintent] at hr
    simpa using hr
  refine ⟨hintent, hreceipt, ?_⟩
  rw [hreceipt] at hv
  simpa using hv

/-- A request may take the place of the one before. -/
theorem accepts_request (h : AwaitsLocal run c ev p) {req : LocalApprovalRequestRecord} {s : String}
    {hash : Sha256Digest} {u v : Time} (hreq : Asks p s hash u v req) (t : Time)
    (m : Dict String Json) :
    { c.toCheckpointFields with
      localApprovalRequest := some req, localApproval := none, localExecutionIntent := none,
      localExecutionReceipt := none, localVerification := none, createdAt := t,
      lastSafeState := .awaitingApproval, resumeMetadata := m,
      version := c.version + 1 }.violation = none := by
  obtain ⟨-, -, h1, h2, -⟩ := CheckpointFields.violation_eq_none _ |>.mp c.valid
  refine CheckpointFields.violation_eq_none _ |>.mpr
    ⟨Nat.succ_ne_zero _, by simp, h1, h2, ?_, rfl, rfl, rfl, rfl⟩
  simp [CheckpointFields.requestBound, h.proposal, hreq.runId, c.proposal_runId h.proposal,
    hreq.correlationId, hreq.proposalId, hreq.proposalHash, hreq.evidenceHash, hreq.version,
    hreq.operation, hreq.targetType, hreq.targetId]

/-- A decision of the request beside it, made in time. -/
theorem accepts_decision (h : AwaitsLocal run c ev p) {req : LocalApprovalRequestRecord}
    (hreq : c.localApprovalRequest = some req) {u : Time}
    (hu : req.requestedAt ≤ u ∧ u ≤ req.expiresAt) (d : ApprovalDecision) (t : Time)
    (m : Dict String Json) :
    { c.toCheckpointFields with
      localApproval := some (.create req d u), createdAt := t, lastSafeState := .awaitingApproval,
      resumeMetadata := m, version := c.version + 1 }.violation = none := by
  obtain ⟨hintent, hreceipt, hverification⟩ := h.unclaimed
  obtain ⟨-, -, h1, h2, h3, -⟩ := CheckpointFields.violation_eq_none _ |>.mp c.valid
  have hrun : req.runId = c.runId := by
    simp only [hreq, Option.all_some, CheckpointFields.requestBound, h.proposal, Bool.and_eq_true,
      beq_iff_eq] at h3
    obtain ⟨⟨⟨⟨⟨⟨⟨⟨hrun, -⟩, -⟩, -⟩, -⟩, -⟩, -⟩, -⟩, -⟩ := h3
    exact hrun
  refine CheckpointFields.violation_eq_none _ |>.mpr
    ⟨Nat.succ_ne_zero _, by simp, h1, h2, h3, ?_, by simp [hintent], by simp [hreceipt],
      by simp [hverification]⟩
  simp [CheckpointFields.approvalBound, hreq, LocalApprovalDecisionRecord.create, hrun, hu.1, hu.2]

end AwaitsLocal

/-- A recorded decision of an awaiting proposal entitles its run to leave `AWAITING_APPROVAL`. -/
theorem Store.localDecisionValid_of {s : Store} {r : UUID} {a : LocalApprovalDecisionRecord}
    (hc : s.checkpoints.get r = some c) (hp : c.remediationProposal = some p)
    (hs : p.status = .awaitingApproval) (ha : c.localApproval = some a) :
    s.localDecisionValid r a.proposalId a.decision := by
  have hid := Table.key_of_get hc
  change c.runId = r at hid
  obtain ⟨h1, h2, -⟩ := c.approval_bound hp ha
  simp [Store.localDecisionValid, hc, hp, ha, hs, h1, h2, c.proposal_runId hp, hid]

end Checkpoints

/-! ## Calls that leave the run as it was -/

namespace LocalHitlExecutionFlow

variable {e : LocalEnvironment} {r : UUID} {inv : Inventory} {log : AuditLog} {st : LocalSolo ι}
  {run : Run} {c : Checkpoint} {ev : ResourceEvidence} {p : RemediationProposal} {who : ι}

/-- The audit log holds no more events of the run than it may. -/
def WithinCap (r : UUID) (log : AuditLog) : Prop :=
  log.countKeys (·.1 = r) ≤ MAX_AUDIT_EVENTS_PER_RUN

/-- The run of the repository still awaits approval. -/
structure StillAwaits (e : LocalEnvironment) (r : UUID) (inv : Inventory) (run : Run)
    (ev : ResourceEvidence) (p : RemediationProposal) (st : LocalSolo ι) : Prop where
  stands : ∃ log c, Stages e r inv log st run c ∧ AwaitsLocal run c ev p ∧ WithinCap r log

theorem wp_appendEvent_awaits (h : Stages e r inv log st run c) (hcap : WithinCap r log)
    (cfg : LocalHitlConfig) (type : AuditEventType) (hash : Sha256Digest)
    (metadata : Dict String String) :
    e.Wp who (appendEvent cfg run type hash metadata)
      (fun _ st' => ∃ log', Stages e r inv log' st' run c ∧ WithinCap r log') st := by
  have hid := Table.key_of_get h.stored
  refine (wp_appendEvent h hid type hash metadata).mono fun o st' h' => ?_
  obtain ⟨-, hroom, event, -, -, h'⟩ | ⟨x, -, -, h', -⟩ := h'
  · refine ⟨_, h', ?_⟩
    have hlt := hroom.2
    rw [show run.runId = r from hid] at hlt
    unfold WithinCap
    cases hget : log.get (event.runId, event.eventId) with
    | none =>
      rw [Table.countKeys_put_of_none hget]
      split <;> omega
    | some old =>
      rw [Table.countKeys_put_of_get hget]
      exact hcap
  · exact ⟨_, h', hcap⟩

theorem wp_auditPolicyDenial (h : Stages e r inv log st run c) (hcap : WithinCap r log)
    (cfg : LocalHitlConfig) (p : RemediationProposal) (code : String) :
    e.Wp who (auditPolicyDenial cfg run p code)
      (fun _ st' => ∃ log', Stages e r inv log' st' run c ∧ WithinCap r log') st := by
  refine ends_try (wp_appendEvent_awaits h hcap cfg _ _ _) (fun x st' h' => h') fun x st' h' => ?_
  unfold Flow.catching
  split
  · exact h'
  · exact h'

/-- **`request_approval`** replaces the request at most. -/
theorem wp_requestApproval_awaits (h : StillAwaits e r inv run ev p st) (cfg : LocalHitlConfig)
    (principal : LocalOperatorPrincipal) :
    e.Wp who (requestApproval cfg r principal) (fun _ st' => StillAwaits e r inv run ev p st') st := by
  obtain ⟨log, c, h, ha, hcap⟩ := h
  refine .bind (wp_load h) (fun found st1 h1 => ?_) fun x st1 h1 => ?_
  · obtain ⟨ho, -, h1⟩ := h1
    rw [ha.loaded] at ho
    cases ho
    have hstate : ¬run.state ≠ .awaitingApproval := not_not.mpr ha.state
    have hnone : ¬c.localApproval.isSome := by simp [ha.undecided]
    simp only [requestLoaded, if_neg hstate, if_neg hnone]
    refine wp_clock_bind ?_
    split
    · exact ⟨log, c, h1.next, ha, hcap⟩
    refine wp_nonce_bind ?_
    split
    · exact ⟨log, c, h1.next.next, ha, hcap⟩
    refine ends_try (R := fun _ st' => StillAwaits e r inv run ev p st') ?_
      (fun req st' h' => h') fun x st' h' => ?_
    · refine wp_freshId_bind ?_
      refine .bind (R := fun o st' => (∀ req, o = .ok req → Asks p principal.actorSessionId _ _ _ req) ∧
        Stages e r inv log st' run c) (ends_ofExcept ⟨fun req hreq =>
          LocalApprovalRequestRecord.create_ok hreq, h1.next.next.next⟩)
        (fun req st2 h2 => ?_) fun x st2 h2 => ⟨log, c, h2.2, ha, hcap⟩
      obtain ⟨hasks, h2⟩ := h2
      refine .bind (wp_saveNext h2 rfl fun t m => ha.accepts_request (hasks req rfl) t m)
        (fun c1 st3 h3 => ?_) fun x st3 h3 => ?_
      · obtain ⟨c', t, m, ho, hf, -, h3⟩ := h3
        cases ho
        have ha1 : AwaitsLocal run c1 ev p :=
          ⟨ha.state, by rw [hf]; exact ha.evidence, by rw [hf]; exact ha.proposal, ha.bound,
            ha.status, by rw [hf]⟩
        refine .bind (wp_appendEvent_awaits h3 hcap cfg _ _ _) (fun _ st4 h4 => ?_)
          fun x st4 h4 => ?_
        · obtain ⟨log', h4, hcap4⟩ := h4
          exact ⟨log', c1, h4, ha1, hcap4⟩
        · obtain ⟨log', h4, hcap4⟩ := h4
          exact ⟨log', c1, h4, ha1, hcap4⟩
      · obtain ⟨c', t, m, ho, -⟩ := h3
        cases ho
    · unfold Flow.catching
      split
      · exact h'
      · exact h'
  · obtain ⟨ho, -⟩ := h1
    cases ho

/-- **`decide`**, where what it is given does not answer the request of the run or comes too late for
    it, changes nothing. -/
theorem wp_decide_awaits (h : Stages e r inv log st run c) (ha : AwaitsLocal run c ev p)
    (hcap : WithinCap r log) (cfg : LocalHitlConfig) {d : LocalDecisionRequest} (hd : d.runId = r)
    (principal : LocalOperatorPrincipal)
    (hrefused : ∀ req, c.localApprovalRequest = some req →
      decisionMatchesRequest d principal req → req.expiresAt < e.now (st.tick + 2)) :
    e.Wp who (decide cfg d principal)
      (fun _ st' => ∃ log', Stages e r inv log' st' run c ∧ WithinCap r log') st := by
  subst hd
  refine .bind (wp_load h) (fun found st1 h1 => ?_) fun x st1 h1 => ?_
  · obtain ⟨ho, htick, h1⟩ := h1
    rw [ha.loaded] at ho
    cases ho
    simp only [decideLoaded]
    split
    · exact ⟨log, h1, hcap⟩
    · rename_i req hreq
      split
      · refine .bind (wp_auditPolicyDenial h1 hcap cfg _ _) (fun _ st2 h2 => h2) fun x st2 h2 => h2
      · rename_i hmatch
        have hlate := hrefused req hreq (by simpa using hmatch)
        rw [← htick] at hlate
        simp only [ha.undecided]
        refine wp_clock_bind ?_
        rw [if_pos (.inl hlate)]
        refine .bind (wp_auditPolicyDenial h1.next hcap cfg _ _) (fun _ st2 h2 => h2) fun x st2 h2 => h2
  · obtain ⟨ho, -⟩ := h1
    cases ho

/-- **`resume`** has nothing to resume. -/
theorem wp_resume_awaits (h : Stages e r inv log st run c) (ha : AwaitsLocal run c ev p)
    (cfg : LocalHitlConfig) (principal : LocalOperatorPrincipal) :
    e.Wp who (resume cfg r principal) (fun _ st' => Stages e r inv log st' run c) st := by
  refine .bind (wp_load h) (fun found st1 h1 => ?_) fun x st1 h1 => ?_
  · obtain ⟨ho, -, h1⟩ := h1
    rw [ha.loaded] at ho
    cases ho
    simp only [resumeLoaded, ha.undecided]
    exact h1
  · obtain ⟨ho, -⟩ := h1
    cases ho

/-! ## The way to success -/

/-- The nonce factory returns a challenge that `request_approval` takes. -/
def PassesNonce (nonce : String) : Prop :=
  isStripped nonce ∧ 16 ≤ nonce.length ∧ nonce.length ≤ 256

/-- The secret scan of the audit events that name an operator session: what it says of them is what it
    says of the session. -/
structure ScansSession (cfg : LocalHitlConfig) (session : String) (flagged : Bool) : Prop where
  request : ∀ p q t k : UUID, cfg.sensitive (((Dict.ofPairs [("proposal_id", p.str),
    ("request_id", q.str), ("actor_session_id", session)]).insert "trace_id" t.str).insert
      "correlation_id" k.str) = flagged
  decision : ∀ (p q t k : UUID) (d : ApprovalDecision), cfg.sensitive (((Dict.ofPairs
    [("proposal_id", p.str), ("request_id", q.str), ("decision", d.value),
      ("actor_session_id", session)]).insert "trace_id" t.str).insert "correlation_id" k.str) = flagged

variable {cfg : LocalHitlConfig} {principal : LocalOperatorPrincipal} {flagged : Bool} {b m : Nat}

/-- **`request_approval`** returns a challenge if and only if its audit event is accepted. -/
theorem wp_requestApproval (h : Tallied e r inv st run c b (m + 10)) (ha : AwaitsLocal run c ev p)
    (hgate : p.authorityClass = .planAndConfirm) (htime : e.now (st.tick + 2) < p.expiresAt)
    (hnonce : PassesNonce (e.nonces (st.tick + 3)))
    (hscan : ScansSession cfg principal.actorSessionId flagged) :
    e.Wp who (requestApproval cfg r principal) (fun o st' =>
      (¬(flagged = false ∧ 1 ≤ b) ∧ ∀ ch, o ≠ .ok (.succeeded ch)) ∨
      ∃ d req c', b = d + 1 ∧ flagged = false ∧
        o = .ok (.succeeded ⟨req, p, ev, e.nonces (st.tick + 3)⟩) ∧ st'.tick = st.tick + 10 ∧
        Asks p principal.actorSessionId (Sha256.hexdigest (e.nonces (st.tick + 3)))
          (e.now (st.tick + 2))
          (min p.expiresAt (e.now (st.tick + 2) + seconds cfg.requestTtlSeconds)) req ∧
        c'.localApprovalRequest = some req ∧ AwaitsLocal run c' ev p ∧
        Tallied e r inv st' run c' d m) st := by
  obtain ⟨log, h, hv, hfull⟩ := h
  refine .bind (wp_load h) (fun found st1 h1 => ?_) fun x st1 h1 => ?_
  · obtain ⟨ho, htick, h1⟩ := h1
    rw [ha.loaded] at ho
    cases ho
    have hstate : ¬run.state ≠ .awaitingApproval := not_not.mpr ha.state
    have hnone : ¬c.localApproval.isSome := by simp [ha.undecided]
    have hearly : ¬p.expiresAt ≤ e.now st1.tick := by
      rw [htick]
      exact not_le.mpr htime
    have hvalid : ¬(!isStripped (e.nonces st1.next.tick) ∨ (e.nonces st1.next.tick).length < 16 ∨
        256 < (e.nonces st1.next.tick).length) := by
      have hnext : st1.next.tick = st.tick + 3 := by
        simp only [LocalSolo.next_tick, htick]
      obtain ⟨h2, h3, h4⟩ := hnonce
      rw [hnext]
      simp only [h2, Bool.not_true, Bool.false_eq_true, false_or]
      omega
    simp only [requestLoaded, if_neg hstate, if_neg hnone]
    refine wp_clock_bind ?_
    rw [if_neg hearly]
    refine wp_nonce_bind ?_
    rw [if_neg hvalid]
    have hnext : st1.next.tick = st.tick + 3 := by
      simp only [LocalSolo.next_tick, htick]
    rw [hnext, htick]
    have hlt : e.now (st.tick + 2) <
        min p.expiresAt (e.now (st.tick + 2) + seconds cfg.requestTtlSeconds) := by
      have hpos := cfg.ttl_ok.1
      refine lt_min htime (Nat.lt_add_of_pos_right ?_)
      unfold seconds
      omega
    obtain ⟨req, hcreate⟩ := LocalApprovalRequestRecord.create_of_awaiting hgate ha.status
      (min_le_left _ _) hlt (e.ids st1.next.next.tick) principal.actorSessionId
      (Sha256.hexdigest (e.nonces (st.tick + 3)))
    have hasks := LocalApprovalRequestRecord.create_ok hcreate
    refine ends_try (R := fun o st' =>
        (¬(flagged = false ∧ 1 ≤ b) ∧ ∃ x, o = .error x ∧ (x.isStorage || x.isValueError)) ∨
        ∃ d c', b = d + 1 ∧ flagged = false ∧ o = .ok req ∧ st'.tick = st.tick + 10 ∧
          c'.localApprovalRequest = some req ∧ AwaitsLocal run c' ev p ∧
          Tallied e r inv st' run c' d m) ?_ (fun x st' h' => ?_) fun x st' h' => ?_
    · refine wp_freshId_bind ?_
      rw [hcreate]
      have hv1 : Vacant e r log st1.next.next.next.tick b (m + 3 + 2) := by
        refine hv.later ?_ ?_
        · simp only [LocalSolo.next_tick, htick]
          omega
        · simp only [LocalSolo.next_tick, htick]
          omega
      refine .bind (R := fun o st2 => o = .ok req ∧ st2 = st1.next.next.next) (ends_ofExcept ⟨rfl, rfl⟩)
        (fun req' st2 h2 => ?_) fun x st2 h2 => by cases h2.1
      obtain ⟨ho, rfl⟩ := h2
      cases ho
      refine .bind (wp_save ⟨log, h1.next.next.next, hv1, hfull⟩ rfl fun t m =>
        ha.accepts_request hasks t m) (fun c1 st3 h3 => ?_) fun x st3 h3 => ?_
      · obtain ⟨c', t, d, ho, hf, ht3, h3⟩ := h3
        cases ho
        have ha1 : AwaitsLocal run c1 ev p :=
          ⟨ha.state, by rw [hf]; exact ha.evidence, by rw [hf]; exact ha.proposal, ha.bound,
            ha.status, by rw [hf]⟩
        have hid := Table.key_of_get h.stored
        change run.runId = r at hid
        cases flagged with
        | false =>
          refine .bind (wp_audit h3 hid _ _ (hscan.request ..)) (fun _ st4 h4 => ?_)
            fun x st4 h4 => ?_
          · obtain ⟨d', hb, -, ht4, h4⟩ | ⟨-, ⟨x, hx, -⟩, -⟩ := h4
            · refine .inr ⟨d', c1, hb, rfl, rfl, ?_, by rw [hf], ha1, h4⟩
              change st4.tick = st.tick + 10
              simp only [LocalSolo.next_tick, htick] at ht3
              omega
            · cases hx
          · obtain ⟨d', -, ho, -⟩ | ⟨hb, ⟨z, hz, hstore⟩, -⟩ := h4
            · cases ho
            · cases hz
              exact .inl ⟨by omega, _, rfl, hstore⟩
        | true =>
          -- the scan refuses the session, and with it the event
          obtain ⟨log3, h3, -, -⟩ := h3
          refine .bind (wp_appendEvent h3 hid _ _ _) (fun _ st4 h4 => ?_) fun x st4 h4 => ?_
          · obtain ⟨-, hroom, -⟩ | ⟨x, hx, -⟩ := h4
            · have hrefused := hscan.request p.proposalId req.requestId run.traceId run.correlationId
              rw [hroom.1] at hrefused
              cases hrefused
            · cases hx
          · obtain ⟨ho, -⟩ | ⟨z, hz, hstore, -⟩ := h4
            · cases ho
            · cases hz
              exact .inl ⟨by simp, _, rfl, hstore⟩
      · obtain ⟨c', t, d, ho, -⟩ := h3
        cases ho
    · obtain ⟨-, y, hy, -⟩ | ⟨d, c', hb, hf, ho, ht', hreq, ha', h'⟩ := h'
      · cases hy
      · cases ho
        exact .inr ⟨d, _, c', hb, hf, rfl, ht', hasks, hreq, ha', h'⟩
    · obtain ⟨hno, y, hy, hstore⟩ | ⟨d, c', -, -, ho, -⟩ := h'
      · cases hy
        have hcaught : isChallengeError x := by
          unfold isChallengeError
          split
          · rfl
          · exact hstore
        unfold Flow.catching
        rw [if_pos hcaught]
        refine .inl ⟨hno, fun ch hch => ?_⟩
        cases hch
      · cases ho
  · obtain ⟨ho, -⟩ := h1
    cases ho

/-- A recorded approval is applied: the run is `APPROVED`, and its checkpoint says so. -/
theorem wp_applyDecisionState {a : LocalApprovalDecisionRecord}
    (h : Tallied e r inv st run c b (m + 4)) (hs : run.state = .awaitingApproval)
    (hsafe : c.lastSafeState = .awaitingApproval) (hp : c.remediationProposal = some p)
    (hstatus : p.status = .awaitingApproval) (ha : c.localApproval = some a)
    (hd : a.decision = .approved) :
    e.Wp who (applyDecisionState run c a) (fun o st' => ∃ run' c' t u n,
      o = .ok (.succeeded (run', c')) ∧ run.MovedTo .approved t run' ∧
      c'.toCheckpointFields = { c.toCheckpointFields with
        createdAt := u, lastSafeState := .approved, resumeMetadata := n,
        version := c.version + 1 } ∧ Tallied e r inv st' run' c' b m) st := by
  have htarget : a.decision.targetState = .approved := by rw [hd]; rfl
  have hnot : alreadyApplied run a = false := by
    simp [alreadyApplied, hs, approvedDownstream]
  have hmust : run.state ≠ a.decision.targetState ∧ (!alreadyApplied run a) = true := by
    rw [htarget, hs, hnot]
    decide
  have hbehind : (!false) = true ∧ c.lastSafeState ≠ a.decision.targetState := by
    rw [htarget, hsafe]
    decide
  have hallowed : WorkflowState.approved ∈ ALLOWED_WORKFLOW_TRANSITIONS .awaitingApproval := by
    decide
  have hproof : st.store.decisionCheck r .approved (some a.proposalId) = .ok () := by
    obtain ⟨log, h, -⟩ := h
    have hlocal := Store.localDecisionValid_of h.saved hp hstatus ha
    rw [hd] at hlocal
    simp [Store.decisionCheck, hlocal]
  refine ends_try (R := fun o st' => ∃ run' c' t u n,
      o = .ok (run', c') ∧ run.MovedTo .approved t run' ∧
      c'.toCheckpointFields = { c.toCheckpointFields with
        createdAt := u, lastSafeState := .approved, resumeMetadata := n,
        version := c.version + 1 } ∧ Tallied e r inv st' run' c' b m) ?_
    (fun x st' h' => ?_) fun x st' h' => ?_
  · obtain ⟨run', s, hmove, hm, h1⟩ := h.move who hs (v := none) hallowed hproof rfl
    unfold applyDecisionBody
    simp only [hnot]
    refine .bind (R := fun o st1 => o = .ok run' ∧ Tallied e r inv st1 run' c b (m + 2)) ?_
      (fun x st1 hx => ?_) fun x st1 hx => by cases hx.1
    · unfold moveRun
      rw [if_pos hmust, if_neg (not_not.mpr hs), htarget]
      exact wp_clock_bind (wp_op hmove ⟨rfl, h1⟩)
    obtain ⟨ho, hx⟩ := hx
    cases ho
    refine .bind (R := fun o st2 => ∃ c' u n, o = .ok c' ∧
        c'.toCheckpointFields = { c.toCheckpointFields with
          createdAt := u, lastSafeState := .approved, resumeMetadata := n,
          version := c.version + 1 } ∧ Tallied e r inv st2 run' c' b m) ?_
      (fun c1 st2 h2 => ?_) fun x st2 h2 => ?_
    · unfold saveDecisionState
      rw [if_pos hbehind, htarget]
      refine (wp_save hx rfl fun t n => c.validate_update n c.toolResultHashes (by decide) t).mono
        fun o st2 h2 => ?_
      obtain ⟨c', u, n, ho, hf, -, h2⟩ := h2
      exact ⟨c', u, n, ho, hf, h2⟩
    · obtain ⟨c', u, n, ho, hf, h2⟩ := h2
      cases ho
      exact ⟨run', c1, _, u, n, rfl, hm, hf, h2⟩
    · obtain ⟨c', u, n, ho, -⟩ := h2
      cases ho
  · obtain ⟨run', c', t, u, n, ho, h'⟩ := h'
    cases ho
    exact ⟨run', c', t, u, n, rfl, h'⟩
  · obtain ⟨run', c', t, u, n, ho, -⟩ := h'
    cases ho

/-- **`decide`** approves, whether or not there is room to audit it. -/
theorem wp_decide_approves (h : Tallied e r inv st run c b (m + 12)) (ha : AwaitsLocal run c ev p)
    {req : LocalApprovalRequestRecord} (hreq : c.localApprovalRequest = some req) {nonce : String}
    {t u : Time} (hasks : Asks p principal.actorSessionId (Sha256.hexdigest nonce) t u req)
    (ht : t ≤ e.now (st.tick + 2)) (hu : e.now (st.tick + 2) ≤ u)
    (hexp : e.now (st.tick + 2) ≤ p.expiresAt)
    (hscan : ScansSession cfg principal.actorSessionId false) :
    e.Wp who (decide cfg ((⟨req, p, ev, nonce⟩ : LocalApprovalChallenge).answer .approved) principal)
      (fun _ st' => ∃ run' c' a, ApprovedLocal run' c' ev p a ∧
        a.actorSessionId = principal.actorSessionId ∧ a.decidedAt = e.now (st.tick + 2) ∧
        Tallied e r inv st' run' c' (b - 1) m) st := by
  obtain ⟨log, h, hv, hfull⟩ := h
  have hrun : ((⟨req, p, ev, nonce⟩ : LocalApprovalChallenge).answer .approved).runId = r := by
    have hid := Table.key_of_get h.saved
    exact hasks.runId.trans ((c.proposal_runId ha.proposal).trans hid)
  have hid : run.runId = r := Table.key_of_get h.stored
  unfold decide
  rw [hrun]
  refine .bind (wp_load h) (fun found st1 h1 => ?_) fun x st1 h1 => ?_
  · obtain ⟨ho, htick, h1⟩ := h1
    rw [ha.loaded] at ho
    cases ho
    have hmatch : decisionMatchesRequest ((⟨req, p, ev, nonce⟩ : LocalApprovalChallenge).answer
        .approved) principal req := by
      simp [decisionMatchesRequest, LocalApprovalChallenge.answer, hasks.session, hasks.nonceHash]
    simp only [decideLoaded, hreq, hmatch, Bool.not_true, Bool.false_eq_true, if_false, ha.undecided]
    refine wp_clock_bind ?_
    have hintime : ¬(req.expiresAt < e.now st1.tick ∨ p.expiresAt < e.now st1.tick) := by
      rw [htick, hasks.expiresAt]
      rintro (h2 | h2)
      · exact not_lt.mpr hu h2
      · exact not_lt.mpr hexp h2
    rw [if_neg hintime]
    have hv1 : Vacant e r log st1.next.tick b (m + 7 + 2) := by
      refine hv.later ?_ ?_
      · simp only [LocalSolo.next_tick, htick]
        omega
      · simp only [LocalSolo.next_tick, htick]
        omega
    have hdecided : req.requestedAt ≤ e.now st1.tick ∧ e.now st1.tick ≤ req.expiresAt := by
      rw [htick, hasks.requestedAt, hasks.expiresAt]
      exact ⟨ht, hu⟩
    obtain ⟨hintent, -, -⟩ := ha.unclaimed
    refine ends_try (wp_save ⟨log, h1.next, hv1, hfull⟩ rfl fun t m =>
      ha.accepts_decision hreq hdecided .approved t m) (fun c1 st2 h2 => ?_) fun x st2 h2 => ?_
    · obtain ⟨c', t, n, ho, hf, -, h2⟩ := h2
      cases ho
      have hp1 : c1.remediationProposal = some p := by rw [hf]; exact ha.proposal
      have happroval : c1.localApproval = some (.create req .approved (e.now st1.tick)) := by
        rw [hf]
        exact rfl
      refine .bind (wp_applyDecisionState (m := m + 3) h2 ha.state (by rw [hf]) hp1 ha.status
        happroval rfl) (fun x st3 h3 => ?_) fun x st3 h3 => ?_
      · obtain ⟨run', c2, t', u', n', ho, hm, hf2, h3⟩ := h3
        cases ho
        have hid' : run'.runId = r := hm.runId.trans hid
        have happroved : ApprovedLocal run' c2 ev p (.create req .approved (e.now st1.tick)) := by
          refine ⟨hm.state, ?_, ?_, ?_, ?_, rfl, ?_⟩
          · rw [hf2, hf]
            exact ha.evidence
          · rw [hf2]
            exact hp1
          · have hbound := ha.bound
            unfold prerequisitesBound at hbound ⊢
            rw [hm.runId, hm.traceId, hm.correlationId]
            exact hbound
          · rw [hf2]
            exact happroval
          · rw [hf2, hf]
            exact hintent
        have hsession : (LocalApprovalDecisionRecord.create req .approved
            (e.now st1.tick)).actorSessionId = principal.actorSessionId := hasks.session
        have hat : (LocalApprovalDecisionRecord.create req .approved (e.now st1.tick)).decidedAt =
            e.now (st.tick + 2) := congrArg e.now htick
        have hleft {st4 : LocalSolo ι} (h4 : Tallied e r inv st4 run' c2 (b - 1) m) :
            ∃ run' c' a, ApprovedLocal run' c' ev p a ∧
              a.actorSessionId = principal.actorSessionId ∧ a.decidedAt = e.now (st.tick + 2) ∧
              Tallied e r inv st4 run' c' (b - 1) m :=
          ⟨run', c2, _, happroved, hsession, hat, h4⟩
        refine ends_try (wp_audit h3 hid' _ _ (hscan.decision ..)) (fun _ st4 h4 => ?_)
          fun x st4 h4 => ?_
        · obtain ⟨d, rfl, -, -, h4⟩ | ⟨-, ⟨x, hx, -⟩, -⟩ := h4
          · rw [happroved.approval]
            exact hleft h4
          · cases hx
        · obtain ⟨d, -, ho, -⟩ | ⟨rfl, -, h4⟩ := h4
          · cases ho
          · -- the decision stands, its event does not
            unfold Flow.catching
            split
            · exact hleft h4
            · exact hleft h4
      · obtain ⟨run', c2, t', u', n', ho, -⟩ := h3
        cases ho
    · obtain ⟨c', t, n, ho, -⟩ := h2
      cases ho
  · obtain ⟨ho, -⟩ := h1
    cases ho

/-- **`resume`** of an approved run succeeds if and only if there is room for three audit events. -/
theorem wp_resume_approved {a : LocalApprovalDecisionRecord}
    (h : Tallied e r inv st run c b (m + 23)) (ha : ApprovedLocal run c ev p a)
    (hsession : a.actorSessionId = principal.actorSessionId)
    (hclock : ∀ k, e.executorNow k = e.now k) (hcfg : PassesIds cfg)
    (hact : Actionable e.parse inv p ev) (hdecided : a.decidedAt ≤ e.now (st.tick + 3))
    (htime : e.now (st.tick + 3) ≤ p.expiresAt) :
    e.Wp who (resume cfg r principal) (fun _ st' => ∃ run', st'.store.runs.get r = some run' ∧
      (run'.state = .successWithEvidence ↔ 3 ≤ b)) st := by
  obtain ⟨log, h, hv, hfull⟩ := h
  refine .bind (wp_load h) (fun found st1 h1 => ?_) fun x st1 h1 => ?_
  · obtain ⟨ho, htick, h1⟩ := h1
    have hloaded : loadedOf (some run) (some c) = .succeeded ⟨run, c, ev, p⟩ := by
      simp only [loadedOf, ha.evidence, ha.proposal]
      exact if_pos ha.bound
    rw [hloaded] at ho
    cases ho
    have hdenied : a.decision ≠ .denied := by rw [ha.approved]; decide
    have hsuccess : run.state ≠ .successWithEvidence := by rw [ha.state]; decide
    have hawaiting : run.state ≠ .awaitingApproval := by rw [ha.state]; decide
    have hnext : st1.next.tick = st.tick + 3 := by
      simp only [LocalSolo.next_tick, htick]
    have hintime : ¬p.expiresAt < e.now st1.tick := by
      rw [htick]
      exact not_lt.mpr ((e.now_mono (Nat.le_succ _)).trans htime)
    simp only [resumeLoaded, ha.approval, hsession, ne_eq, not_true, if_false, hdenied, hsuccess,
      resumeApproved, applyIfAwaiting, hawaiting]
    refine wp_clock_bind ?_
    rw [if_neg hintime]
    have hv1 : Vacant e r log st1.next.tick b 20 := hv.later (by omega) (by omega)
    refine wp_drive_approved ⟨log, h1.next, hv1, hfull⟩ hclock hcfg ha.state ha.bound ha.proposal
      ha.approval ha.approved ha.unclaimed hact ?_
    rw [hnext]
    exact ⟨hdecided, htime⟩
  · obtain ⟨ho, -⟩ := h1
    cases ho

end LocalHitlExecutionFlow

/-! ## Refused and repeated calls -/

/-- A script of calls on run `r`: requests, decisions that do not answer the stored request in time,
    and resumes, by anyone. -/
inductive Refused (e : LocalEnvironment) (r : UUID) : LocalSolo ι → LocalSolo ι → Prop
  | refl (st : LocalSolo ι) : Refused e r st st
  | request {st st' : LocalSolo ι} (h : Refused e r st st') (who : ι) (cfg : LocalHitlConfig)
      (principal : LocalOperatorPrincipal) :
      Refused e r st ((requestApproval cfg r principal).run (e.respond who) st').2
  | decide {st st' : LocalSolo ι} (h : Refused e r st st') (who : ι) (cfg : LocalHitlConfig)
      (d : LocalDecisionRequest) (hd : d.runId = r) (principal : LocalOperatorPrincipal)
      (hrefused : ∀ c req, st'.store.checkpoints.get r = some c → c.localApprovalRequest = some req →
        decisionMatchesRequest d principal req → req.expiresAt < e.now (st'.tick + 2)) :
      Refused e r st ((LocalHitlExecutionFlow.decide cfg d principal).run (e.respond who) st').2
  | resume {st st' : LocalSolo ι} (h : Refused e r st st') (who : ι) (cfg : LocalHitlConfig)
      (principal : LocalOperatorPrincipal) :
      Refused e r st ((LocalHitlExecutionFlow.resume cfg r principal).run (e.respond who) st').2

/-- The rest of the script: ask once more, approve with the challenge, resume. -/
def Usable (e : LocalEnvironment) (who : ι) (cfg : LocalHitlConfig) (r : UUID)
    (principal : LocalOperatorPrincipal) (st : LocalSolo ι) : Prop :=
  e.Wp who (requestApproval cfg r principal) (fun o st1 => ∃ ch, o = .ok (.succeeded ch) ∧
    e.Wp who (LocalHitlExecutionFlow.decide cfg (ch.answer .approved) principal) (fun _ st2 =>
      e.Wp who (LocalHitlExecutionFlow.resume cfg r principal) (fun _ st3 =>
        ∃ run, st3.store.runs.get r = some run ∧ run.state = .successWithEvidence) st2) st1) st

/-- What the rest of the script relies on: the identifiers it draws are new, the proposal does not
    expire meanwhile, and its action can be taken. -/
structure Favourable (e : LocalEnvironment) (r : UUID) (cfg : LocalHitlConfig)
    (principal : LocalOperatorPrincipal) (flagged : Bool) (ev : ResourceEvidence)
    (p : RemediationProposal) (st : LocalSolo ι) : Prop where
  unused : ∀ n, st.tick ≤ n → n < st.tick + 60 → st.store.auditEvents.get (r, e.ids n) = none
  distinct : ∀ i j, st.tick ≤ i → i < j → j < st.tick + 60 → e.ids i ≠ e.ids j
  early : ∀ k, e.now k < p.expiresAt
  nonce : PassesNonce (e.nonces (st.tick + 3))
  clock : ∀ k, e.executorNow k = e.now k
  scan : ScansSession cfg principal.actorSessionId flagged
  ids : PassesIds cfg
  action : Actionable e.parse st.world.inventory p ev

variable {e : LocalEnvironment} {r : UUID} {inv : Inventory} {st st' : LocalSolo ι}
  {run : Run} {c : Checkpoint} {ev : ResourceEvidence} {p : RemediationProposal} {who : ι}
  {cfg : LocalHitlConfig} {principal : LocalOperatorPrincipal} {flagged : Bool} {b : Nat}

/-- However often a run is asked about, it still awaits approval. -/
theorem Refused.awaits (h : Refused e r st st') (hst : StillAwaits e r inv run ev p st) :
    StillAwaits e r inv run ev p st' := by
  induction h with
  | refl => exact hst
  | request h who cfg principal ih =>
    exact wp_requestApproval_awaits ih cfg principal
  | decide h who cfg d hd principal hrefused ih =>
    obtain ⟨log, c, h', ha, hcap⟩ := ih
    have hkept : e.Wp who (LocalHitlExecutionFlow.decide cfg d principal)
        (fun _ st' => ∃ log', Stages e r inv log' st' run c ∧ WithinCap r log') _ :=
      wp_decide_awaits h' ha hcap cfg hd principal fun req hreq => hrefused c req h'.saved hreq
    obtain ⟨log', h'', hcap'⟩ := hkept
    exact ⟨log', c, h'', ha, hcap'⟩
  | resume h who cfg principal ih =>
    obtain ⟨log, c, h', ha, hcap⟩ := ih
    have hkept : e.Wp who (LocalHitlExecutionFlow.resume cfg r principal)
        (fun _ st' => Stages e r inv log st' run c) _ := wp_resume_awaits h' ha cfg principal
    exact ⟨log, c, hkept, ha, hcap⟩

omit [Sha256] in
/-- Of the challenges a call may return, this one. -/
theorem returns_challenge_iff {P : LocalApprovalChallenge → Prop} {ch : LocalApprovalChallenge} :
    (∃ ch', (Except.ok (.succeeded ch) : Except PyExc (ControlResult LocalApprovalChallenge)) =
      .ok (.succeeded ch') ∧ P ch') ↔ P ch := by
  constructor
  · rintro ⟨ch', ho, hP⟩
    cases ho
    exact hP
  · intro hP
    exact ⟨ch, rfl, hP⟩

theorem usable_iff_of_tallied (h : Tallied e r inv st run c b 60) (ha : AwaitsLocal run c ev p)
    (hf : Favourable e r cfg principal flagged ev p st) :
    Usable e who cfg r principal st ↔ flagged = false ∧ 5 ≤ b ∧
      e.now (st.tick + 12) ≤ e.now (st.tick + 2) + seconds cfg.requestTtlSeconds := by
  have hact := hf.action
  have hinv : st.world.inventory = inv := by
    obtain ⟨log, h, -⟩ := h
    exact h.inventory
  rw [hinv] at hact
  unfold Usable
  refine ends_iff (wp_requestApproval (m := 50) h ha hact.gate (hf.early _) hf.nonce hf.scan)
    fun o st1 h1 => ?_
  obtain ⟨hno, hch⟩ | ⟨d, req, c1, rfl, rfl, rfl, ht1, hasks, hreq, ha1, h1⟩ := h1
  · refine iff_of_false ?_ fun ⟨hpass, hroom, _⟩ => hno ⟨hpass, by omega⟩
    rintro ⟨ch, ho, -⟩
    exact hch ch ho
  refine returns_challenge_iff.trans ?_
  have htwelve : st1.tick + 2 = st.tick + 12 := by omega
  by_cases hintime : e.now (st.tick + 12) ≤ e.now (st.tick + 2) + seconds cfg.requestTtlSeconds
  · have hle : e.now (st.tick + 2) ≤ e.now (st1.tick + 2) := e.now_mono (by omega)
    have hu : e.now (st1.tick + 2) ≤
        min p.expiresAt (e.now (st.tick + 2) + seconds cfg.requestTtlSeconds) := by
      rw [htwelve]
      exact le_min (hf.early _).le hintime
    refine ends_iff (wp_later (wp_decide_approves (m := 38) h1 ha1 hreq hasks hle hu
      (hf.early _).le hf.scan)) fun o2 st2 h2 => ?_
    obtain ⟨⟨run2, c2, a, ha2, hsession, hat, h2⟩, hlater⟩ := h2
    have hdecided : a.decidedAt ≤ e.now (st2.tick + 3) := by
      rw [hat]
      exact e.now_mono (by omega)
    refine ends_iff (wp_resume_approved (m := 15) h2 ha2 hsession hf.clock hf.ids hact hdecided
      (hf.early _).le) fun o3 st3 h3 => ?_
    obtain ⟨run3, hrun3, hs3⟩ := h3
    constructor
    · rintro ⟨run', hrun', hs'⟩
      rw [hrun3] at hrun'
      cases hrun'
      have hroom := hs3.mp hs'
      exact ⟨rfl, by omega, hintime⟩
    · rintro ⟨-, hroom, -⟩
      exact ⟨run3, hrun3, hs3.mpr (by omega)⟩
  · -- the challenge is refused for its age, and the run stays undecided
    obtain ⟨log1, h1, hv1, -⟩ := h1
    have hcap : WithinCap r log1 := (Nat.le_add_right _ _).trans hv1.room
    have hrun : (LocalApprovalChallenge.answer ⟨req, p, ev, e.nonces (st.tick + 3)⟩
        .approved).runId = r := by
      have hid := Table.key_of_get h1.saved
      exact hasks.runId.trans ((c1.proposal_runId ha1.proposal).trans hid)
    refine ends_iff (wp_decide_awaits h1 ha1 hcap cfg hrun principal fun req' hreq' _ => ?_)
      fun o2 st2 h2 => ?_
    · rw [hreq] at hreq'
      cases hreq'
      rw [htwelve, hasks.expiresAt]
      exact (min_le_right _ _).trans_lt (not_le.mp hintime)
    · obtain ⟨log2, h2, -⟩ := h2
      refine ends_iff (wp_resume_awaits h2 ha1 cfg principal) fun o3 st3 h3 => ?_
      refine iff_of_false ?_ fun ⟨_, _, h⟩ => hintime h
      rintro ⟨run', hrun', hs'⟩
      rw [h3.stored] at hrun'
      cases hrun'
      rw [ha1.state] at hs'
      cases hs'

/-- Asking again and again, in favourable circumstances: each time one place less. -/
theorem asks_again {m : Nat} (n : Nat) (h : Tallied e r inv st run c (n + b) (10 * n + m))
    (ha : AwaitsLocal run c ev p) (hgate : p.authorityClass = .planAndConfirm)
    (hearly : ∀ k, e.now k < p.expiresAt) (hnonce : ∀ k, PassesNonce (e.nonces k))
    (hscan : ScansSession cfg principal.actorSessionId false) (who : ι) :
    ∃ st' c', Refused e r st st' ∧ AwaitsLocal run c' ev p ∧ Tallied e r inv st' run c' b m := by
  induction n generalizing b m with
  | zero =>
    rw [Nat.zero_add, Nat.mul_zero, Nat.zero_add] at h
    exact ⟨st, c, .refl st, ha, h⟩
  | succ n ih =>
    have hb : n + 1 + b = n + (b + 1) := by omega
    have hm : 10 * (n + 1) + m = 10 * n + (m + 10) := by omega
    rw [hb, hm] at h
    obtain ⟨st1, c1, href, ha1, h1⟩ := ih h
    have hrequested : e.Wp who (requestApproval cfg r principal) _ st1 :=
      wp_requestApproval h1 ha1 hgate (hearly _) (hnonce _) hscan
    obtain ⟨hno, -⟩ | ⟨d, req, c2, hd, -, -, -, -, -, ha2, h2⟩ := hrequested
    · exact absurd ⟨rfl, by omega⟩ hno
    · obtain rfl : d = b := by omega
      exact ⟨_, c2, .request href who cfg principal, ha2, h2⟩

end Refusals

/-! ## A run that is asked about too often -/

namespace Sample

section Asking

variable [Sha256]

/-- The sample run, before anyone was asked. -/
abbrev awaitingStart : LocalSolo Nat :=
  ⟨⟨⟨localStore .awaitingApproval proposedCheckpoint, []⟩, localInventory, []⟩, 0⟩

/-- The run itself. -/
abbrev awaitingRun : Run :=
  { run with state := .awaitingApproval, version := 6, version_pos := sixth_version }

theorem awaits : AwaitsLocal awaitingRun proposedCheckpoint evidence remediation where
  state := rfl
  evidence := rfl
  proposal := rfl
  bound := by simp [prerequisitesBound, evidence, remediation, run]
  status := rfl
  undecided := rfl

theorem awaitingStages : Stages (localEnvironment 10 10) (uid 1) localInventory ∅ awaitingStart
    awaitingRun proposedCheckpoint :=
  ⟨Table.get_put_self .., Table.get_put_self .., rfl, rfl, Nat.zero_le _⟩

theorem passesNonce : PassesNonce "0123456789abcdef" := by
  refine ⟨?_, ?_, ?_⟩ <;> decide

omit [Sha256] in
theorem scansSession : ScansSession localConfig operator.actorSessionId false :=
  ⟨fun _ _ _ _ => rfl, fun _ _ _ _ _ => rfl⟩

theorem vacant {m : Nat} (hm : m < 100000) :
    Vacant (localEnvironment 10 10) (uid 1) (∅ : AuditLog) 0 MAX_AUDIT_EVENTS_PER_RUN m := by
  refine ⟨fun n _ _ => rfl, fun i j _ hij hj heq => ?_, by decide⟩
  have := uid_injective (by omega) (by omega) heq
  omega

theorem favourable {st : LocalSolo Nat} {c : Checkpoint} {b : Nat}
    (h : Tallied (localEnvironment 10 10) (uid 1) localInventory st awaitingRun c b 60) :
    Favourable (localEnvironment 10 10) (uid 1) localConfig operator false evidence remediation
      st := by
  obtain ⟨log, h, hv, -⟩ := h
  refine ⟨fun n hn hlt => ?_, hv.distinct, fun _ => (show (10 : Time) < 100 by decide), passesNonce, fun _ => rfl,
    scansSession, passesIds, ?_⟩
  · rw [h.log]
    exact hv.unused n hn hlt
  · rw [h.inventory]
    exact actionable

end Asking

end Sample

end CloudOpsAgent
