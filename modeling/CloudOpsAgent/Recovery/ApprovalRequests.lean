/-
  `DurableApprovalFlow.request` under one storage failure.

  A request is four writes, one after the other: the proposal, the run, the checkpoint that holds the
  interrupt, and its audit event.  `RequestAfter k` is the repository after `k` of the operations of
  `request` have taken effect.  A retry accepts the repository as the request found it, and it
  accepts the one that holds the interrupt.  What lies between the two it refuses, although the
  failure that left it there was called retryable (`request_completes_iff`).
-/
import CloudOpsAgent.Recovery.Approvals

namespace CloudOpsAgent

open ClientProg ClientProg.Prog Environment

section ApprovalRequests

open DurableApprovalFlow

variable [Sha256] {ι : Type}

/-! ## The records of a request -/

/-- What `request` looks at: the proposal, its run and the checkpoint of the run. -/
structure RequestRecords (s : Store) (id : UUID) (p : ActionProposal) (run : Run) (c : Checkpoint) :
    Prop where
  proposal : s.proposals.get id = some p
  run : s.runs.get p.runId = some run
  checkpoint : s.checkpoints.get p.runId = some c

/-- The proposal, once its approval is requested. -/
abbrev ActionProposal.awaiting (p : ActionProposal) : ActionProposal :=
  { p with state := .awaitingApproval }

/-- A checkpoint holds an interrupt and the hash of what it shows. -/
structure HoldsInterrupt (c : Checkpoint) (interruptId : String) (requestHash : Sha256Digest) :
    Prop where
  interruptId : (c.resumeMetadata.lookup "approval_interrupt_id").bind Json.str? = some interruptId
  requestHash : (c.resumeMetadata.lookup "approval_request_hash").bind Json.str? =
    some requestHash.hex

/-- The run may still use the model. -/
def BudgetLeft (run : Run) : Prop :=
  ¬(run.budget.maxTurns - run.budget.turnsUsed = 0 ∨ run.budget.maxTokens - run.budget.tokensUsed = 0 ∨
    run.budget.maxElapsedSeconds * 1000 - run.budget.elapsedMillisecondsUsed = 0)

/-- A request that can be made from the start: nothing of it is done, the run may use the model, the
    clock has not been turned back at the transition, and the audit event will be accepted. -/
structure Requestable (e : Environment) (st : Solo ι) (p : ActionProposal) (run : Run) : Prop where
  proposed : p.state = .proposed
  state : run.state = .remediationProposed
  budget : BudgetLeft run
  updated : run.updatedAt ≤ e.now (st.tick + 4)
  unused : st.world.store.auditEvents.get (run.runId, e.ids (st.tick + 9)) = none
  room : st.world.store.countAuditEvents run.runId < MAX_AUDIT_EVENTS_PER_RUN

/-- The agent answers every invocation with exactly one native interrupt. -/
def Interrupting (e : Environment) : Prop :=
  ∀ k input, ∃ interruptId, e.agent k input = .ok ⟨"interrupt", [interruptId], none⟩

namespace RequestRecords

variable {s : Store} {id : UUID} {p : ActionProposal} {run : Run} {c : Checkpoint}

theorem key (h : RequestRecords s id p run c) : p.proposalId = id := Table.key_of_get h.proposal

theorem runId (h : RequestRecords s id p run c) : run.runId = p.runId := Table.key_of_get h.run

/-- The proposal awaits its approval. -/
theorem propose (h : RequestRecords s id p run c) (hp : p.state = .proposed) :
    ∃ s', (Op.transitionProposal p.proposalId .awaitingApproval .proposed).run s =
        .ok (p.awaiting, s') ∧ RequestRecords s' id p.awaiting run c ∧
      s'.auditEvents = s.auditEvents := by
  have hget : s.proposals.get p.proposalId = some p := by rw [h.key, h.proposal]
  have hallowed : ProposalState.awaitingApproval ∈ ProposalState.proposed.allowed := by decide
  refine ⟨{ s with proposals := s.proposals.put p.awaiting }, ?_, ⟨?_, h.run, h.checkpoint⟩, rfl⟩
  · simp only [Op.run, Store.transitionProposal, hget, hp, transitionedProposal, hallowed,
      ne_eq, not_true, if_false, if_true, bind, Except.bind]
    rfl
  · rw [← h.key]
    exact Table.get_put_self s.proposals p.awaiting

/-- The run awaits it. -/
theorem move (h : RequestRecords s id p run c) (hrun : run.state = .remediationProposed) {t : Time}
    (ht : run.updatedAt ≤ t) :
    ∃ run' s', (Op.transitionRun run.runId .awaitingApproval .remediationProposed run.version t none
        none).run s = .ok (run', s') ∧ run'.state = .awaitingApproval ∧ run'.budget = run.budget ∧
      RequestRecords s' id p run' c ∧ s'.auditEvents = s.auditEvents := by
  have hallowed : WorkflowState.awaitingApproval ∈ ALLOWED_WORKFLOW_TRANSITIONS run.state := by
    rw [hrun]
    decide
  obtain ⟨run', hrun'⟩ : ∃ run', transitionRun run .awaitingApproval t = .ok run' := by
    simp [transitionRun, validateWorkflowTransition, hallowed, ht]
  obtain ⟨-, -, hs', -, -, hid', -, -, hbudget⟩ := transitionRun_ok hrun'
  have hget : s.runs.get run.runId = some run := by rw [h.runId, h.run]
  refine ⟨run', { s with runs := s.runs.put run' }, ?_, hs', hbudget, ⟨h.proposal, ?_,
    h.checkpoint⟩, rfl⟩
  · simp only [Op.run, Store.transitionRun, hget, Option.elim_some, bind, Except.bind, hrun, ne_eq,
      not_true, or_self, if_false, Store.decisionCheck, Store.successCheck, hrun', reduceCtorEq]
    rfl
  · rw [← h.runId, ← hid']
    exact Table.get_put_self s.runs run'

/-- The next checkpoint holds the interrupt. -/
theorem save (h : RequestRecords s id p run c) (interruptId : String) (t : Time) :
    ∃ next s', Checkpoint.validate {
        runId := run.runId
        lastSafeState := .awaitingApproval
        resumeMetadata := ((c.resumeMetadata.insert "approval_interrupt_id"
          (.str interruptId)).insert "approval_request_hash"
          (.str (approvalRequestHash (buildApprovalPayload p)).hex)).insert "proposal_id"
          (.str p.proposalId.str)
        toolResultHashes := c.toolResultHashes
        createdAt := t
        version := c.version + 1 } = .ok next ∧
      (Op.saveCheckpoint next (some c.version)).run s = .ok (next, s') ∧
      HoldsInterrupt next interruptId (approvalRequestHash (buildApprovalPayload p)) ∧
      RequestRecords s' id p run next ∧ s'.auditEvents = s.auditEvents := by
  have hget : s.checkpoints.get run.runId = some c := by rw [h.runId, h.checkpoint]
  have hfields : ({
        runId := run.runId
        lastSafeState := .awaitingApproval
        resumeMetadata := ((c.resumeMetadata.insert "approval_interrupt_id"
          (.str interruptId)).insert "approval_request_hash"
          (.str (approvalRequestHash (buildApprovalPayload p)).hex)).insert "proposal_id"
          (.str p.proposalId.str)
        toolResultHashes := c.toolResultHashes
        createdAt := t
        version := c.version + 1 } : CheckpointFields).violation = none := by
    refine CheckpointFields.violation_eq_none _ |>.mpr ⟨?_, ?_, ?_, rfl, rfl, rfl, rfl, rfl, rfl⟩
    · exact Nat.succ_ne_zero _
    · simp
    · simp
  refine ⟨⟨_, hfields⟩, { s with checkpoints := s.checkpoints.put ⟨_, hfields⟩ },
    Checkpoint.validate_of_violation hfields, ?_, ⟨?_, ?_⟩, ⟨h.proposal, h.run, ?_⟩, rfl⟩
  · simp only [Op.run, Store.saveCheckpoint, hget, ne_eq, not_true, or_self, if_false]
    rfl
  · simp [Finmap.lookup_insert_of_ne, Finmap.lookup_insert, Json.str?]
  · simp [Finmap.lookup_insert_of_ne, Finmap.lookup_insert, Json.str?]
  · rw [← h.runId]
    exact Table.get_put_self s.checkpoints _

end RequestRecords

/-- The call returned a failure and called it retryable. -/
def FaultRun.Retryable {α : Type} (x : FaultRun ι (ControlResult α)) : Prop :=
  ∃ f, x.outcome = some (.ok (.failed f)) ∧ f.retryable = true

/-- The call returned an interrupt, and the checkpoint holds it. -/
def Requested (o : Except PyExc (ControlResult ApprovalInterrupt)) (s : Store) : Prop :=
  ∃ i c, o = .ok (.succeeded i) ∧ s.checkpoints.get i.payload.runId = some c ∧
    HoldsInterrupt c i.interruptId i.requestHash

/-- The repository after `k` operations of a request made from the start. -/
structure RequestAfter (s : Store) (id : UUID) (p : ActionProposal) (run : Run) (c : Checkpoint)
    (k : Nat) (s' : Store) : Prop where
  untouched : k < 4 → s' = s
  moved : 4 ≤ k → ∃ run' c', RequestRecords s' id p.awaiting run' c' ∧ (k < 5 → run' = run) ∧
    (5 ≤ k → run'.state = .awaitingApproval) ∧ (k < 6 → c' = c) ∧
    (6 ≤ k → ∃ interruptId, HoldsInterrupt c' interruptId
      (approvalRequestHash (buildApprovalPayload p)))

/-- What `request` returns of a fault at operation `n` of its seven. -/
structure RequestReturns (fault : Fault) (n : Nat) (x : FaultRun ι (ControlResult ApprovalInterrupt)) :
    Prop where
  retryable : n < 7 → (x.Retryable ↔
    fault.mode.crashes = false ∧ (fault.error.isDependency = true ∨ 5 ≤ n))
  requested : 7 ≤ n → x.left.isSome ∧ ∀ o, x.outcome = some o → Requested o x.final.world.store

namespace DurableApprovalFlow

variable {e e' : Environment} {who who' : ι} {fault : Fault} {n : Nat} {st : Solo ι} {id : UUID}
  {p : ActionProposal} {run : Run} {c : Checkpoint}

theorem retryable_storageFailed {α : Type} (message : String) (left : Option Nat) (st : Solo ι) :
    (⟨some (.ok (storageFailed message)), left, st⟩ : FaultRun ι (ControlResult α)).Retryable :=
  ⟨_, rfl, rfl⟩

theorem not_retryable_raised {α : Type} (x : PyExc) (left : Option Nat) (st : Solo ι) :
    ¬(⟨some (.error x), left, st⟩ : FaultRun ι (ControlResult α)).Retryable := by
  rintro ⟨f, hf, -⟩
  cases hf

theorem not_retryable_crashed {α : Type} (left : Option Nat) (st : Solo ι) :
    ¬(⟨none, left, st⟩ : FaultRun ι (ControlResult α)).Retryable := by
  rintro ⟨f, hf, -⟩
  cases hf

/-- A crash returns nothing. -/
theorem requestReturns_crashed (hcrash : fault.mode.crashes = true) (hn : n < 7)
    (left : Option Nat) (st : Solo ι) : RequestReturns fault n ⟨none, left, st⟩ := by
  refine ⟨fun _ => iff_of_false (not_retryable_crashed _ _) fun h => ?_, fun h => by omega⟩
  rw [hcrash] at h
  cases h.1

/-- The lookups of `request`. -/
theorem fwp_lookup (h : RequestRecords st.world.store id p run c) :
    e.FWp who fault (lookup id) (some n) (fun x => Struck fault 3 n x ∧
      x.final.world.store = st.world.store ∧ (x.left.isSome → x.final.tick = st.tick + 3) ∧
      ∀ v, x.outcome = some (.ok v) → v = .succeeded (p, some run, some c)) st := by
  have h1 : (Op.getProposal id).run st.world.store = .ok (some p, st.world.store) := by
    rw [← h.proposal]
    rfl
  have h2 : (Op.getRun p.runId).run st.world.store = .ok (some run, st.world.store) := by
    rw [← h.run]
    rfl
  have h3 : (Op.getCheckpoint p.runId).run st.world.store = .ok (some c, st.world.store) := by
    rw [← h.checkpoint]
    rfl
  have struck {m : Nat} {op : Op} {st' : Solo ι} (hm : n = m) (hlt : m < 3)
      (hst : st'.world.store = st.world.store) :
      Struck fault 3 n (⟨fault.outcome, none, fault.struck st' (st'.applied who op st'.world.store)⟩ :
        FaultRun ι (ControlResult (ActionProposal × Option Run × Option Checkpoint))) ∧
      (fault.struck st' (st'.applied who op st'.world.store)).world.store = st.world.store ∧
      ((none : Option Nat).isSome →
        (fault.struck st' (st'.applied who op st'.world.store)).tick = st.tick + 3) ∧
      ∀ v : ControlResult (ActionProposal × Option Run × Option Checkpoint),
        fault.outcome = some (.ok v) → v = .succeeded (p, some run, some c) := by
    refine ⟨⟨fun _ => ⟨rfl, rfl⟩, fun k hk => by omega⟩, ?_, fun hl => (by cases hl),
      fun v hv => absurd hv (fault.outcome_ne_ok v)⟩
    rw [fault.struck_store, ite_self, hst]
  refine fwp_op_bind h1 (fun hn => struck hn (by omega) rfl) fun n1 hn1 => ?_
  refine fwp_op_bind h2 (fun hn => struck (m := 1) (by omega) (by omega) rfl) fun n2 hn2 => ?_
  refine fwp_op_bind h3 (fun hn => struck (m := 2) (by omega) (by omega) rfl) fun n3 hn3 => ?_
  refine fwp_ret ⟨⟨fun hlt => by omega, fun k hk => ⟨congrArg some (by omega), _, rfl⟩⟩, rfl,
    fun _ => rfl, fun v hv => ?_⟩
  cases hv
  rfl

/-- The two transitions. -/
theorem fwp_startAwaiting (h : RequestRecords st.world.store id p run c)
    (hp : p.state = .proposed) (hs : run.state = .remediationProposed)
    (ht : run.updatedAt ≤ e.now (st.tick + 1)) :
    e.FWp who fault (startAwaiting run p) (some n) (fun x => Struck fault 2 n x ∧
      x.final.world.store.auditEvents = st.world.store.auditEvents ∧
      (fault.effective n = 0 → x.final.world.store = st.world.store) ∧
      (1 ≤ fault.effective n → ∃ run', RequestRecords x.final.world.store id p.awaiting run' c ∧
        (fault.effective n < 2 → run' = run) ∧
        (2 ≤ fault.effective n → run'.state = .awaitingApproval) ∧
        (x.left.isSome → x.final.tick = st.tick + 3 ∧ run'.budget = run.budget ∧
          ∀ v, x.outcome = some (.ok v) → v = (p.awaiting, run')))) st := by
  obtain ⟨s1, hpropose, h1, hlog1⟩ := h.propose hp
  obtain ⟨run', s2, hmove, hs', hbudget, h2, hlog2⟩ := h1.move hs ht
  refine fwp_op_bind hpropose (fun hn => ?_) fun m hm => ?_
  · subst hn
    refine ⟨⟨fun _ => ⟨rfl, rfl⟩, fun k hk => by omega⟩, ?_⟩
    rw [fault.struck_store]
    cases hmode : fault.mode.takesEffect
    · rw [Fault.effective_of_false hmode]
      exact ⟨rfl, fun _ => rfl, fun hk => by omega⟩
    · rw [Fault.effective_of_true hmode]
      refine ⟨hlog1, fun hk => by omega, fun _ => ⟨run, h1, fun _ => rfl, fun hk => by omega,
        fun hl => by cases hl⟩⟩
  subst hm
  refine fwp_clock_bind (fwp_op_bind hmove (fun hn => ?_) fun k hk => ?_)
  · subst hn
    refine ⟨⟨fun _ => ⟨rfl, rfl⟩, fun k hk => by omega⟩, ?_⟩
    rw [fault.struck_store]
    cases hmode : fault.mode.takesEffect
    · rw [Fault.effective_of_false hmode]
      exact ⟨hlog1, fun hk => by omega, fun _ => ⟨run, h1, fun _ => rfl, fun hk => by omega,
        fun hl => by cases hl⟩⟩
    · rw [Fault.effective_of_true hmode]
      exact ⟨hlog2.trans hlog1, fun hk => by omega, fun _ => ⟨run', h2, fun hk => by omega,
        fun _ => hs', fun hl => by cases hl⟩⟩
  · subst hk
    have hle := fault.le_effective (n := k + 1 + 1)
    refine fwp_ret ⟨⟨fun hlt => by omega, fun j hj => ⟨congrArg some (by omega), _, rfl⟩⟩,
      hlog2.trans hlog1, fun hk => by omega, fun _ => ⟨run', h2, fun hk => by omega, fun _ => hs',
        fun _ => ⟨rfl, hbudget, fun v hv => ?_⟩⟩⟩
    cases hv
    rfl

/-- The checkpoint of the interrupt and its audit event. -/
theorem fwp_checkpointInterrupt (h : RequestRecords st.world.store id p run c)
    (interruptId : String)
    (hunused : st.world.store.auditEvents.get (run.runId, e.ids (st.tick + 2)) = none)
    (hroom : st.world.store.countAuditEvents run.runId < MAX_AUDIT_EVENTS_PER_RUN) :
    e.FWp who fault (checkpointInterrupt run p c interruptId) (some n) (fun x =>
      (∃ c', RequestRecords x.final.world.store id p run c' ∧ (fault.effective n = 0 → c' = c) ∧
        (1 ≤ fault.effective n → HoldsInterrupt c' interruptId
          (approvalRequestHash (buildApprovalPayload p)))) ∧
      (n < 2 → (x.Retryable ↔ fault.mode.crashes = false)) ∧
      (2 ≤ n → x.left.isSome ∧ x.outcome = some (.ok (.succeeded ⟨interruptId,
        buildApprovalPayload p, approvalRequestHash (buildApprovalPayload p), run.traceId,
        run.correlationId, false⟩)))) st := by
  obtain ⟨next, s1, hvalid, hsave, hholds, h1, hlog1⟩ := h.save interruptId (e.now st.tick)
  refine fwp_try_struck (c := 2) (R := fun x => ∃ c', RequestRecords x.final.world.store id p run c' ∧
      (fault.effective n = 0 → c' = c) ∧ (1 ≤ fault.effective n → HoldsInterrupt c' interruptId
        (approvalRequestHash (buildApprovalPayload p)))) ?_ (fun hlt hcrash st' hR => ?_)
    (fun hlt hraise st' hR => ?_) fun k a st' hn hR => ?_
  · refine fwp_clock_bind ?_
    rw [hvalid]
    refine fwp_op_bind hsave (fun hn => ?_) fun m hm => ?_
    · subst hn
      refine ⟨⟨fun _ => ⟨rfl, rfl⟩, fun k hk => by omega⟩, ?_⟩
      rw [fault.struck_store]
      cases hmode : fault.mode.takesEffect
      · rw [Fault.effective_of_false hmode]
        exact ⟨c, h, fun _ => rfl, fun hk => by omega⟩
      · rw [Fault.effective_of_true hmode]
        exact ⟨next, h1, fun hk => by omega, fun _ => hholds⟩
    subst hm
    have hle := fault.le_effective (n := m + 1)
    have hevent (event : AuditEvent) (hrun : event.runId = run.runId)
        (hid : event.eventId = e.ids (st.tick + 2)) :
        (Op.appendAuditEvent event).run s1 =
          .ok (event, { s1 with auditEvents := s1.auditEvents.put event }) := by
      have hcount : s1.countAuditEvents run.runId = st.world.store.countAuditEvents run.runId := by
        unfold Store.countAuditEvents
        rw [hlog1]
      simp only [Op.run, Store.appendAuditEvent, hrun, hid, hlog1, hunused, Option.isSome_none,
        Bool.false_eq_true, if_false, hcount, if_neg (not_le.mpr hroom)]
      rfl
    refine fwp_freshId_bind (fwp_clock_bind ?_)
    refine fwp_op_bind (hevent _ rfl rfl) (fun hn => ?_) fun k hk => ?_
    · subst hn
      refine ⟨⟨fun _ => ⟨rfl, rfl⟩, fun k hk => by omega⟩, next, ?_, fun hk => by omega,
        fun _ => hholds⟩
      rw [fault.struck_store]
      split
      · exact ⟨h1.proposal, h1.run, h1.checkpoint⟩
      · exact h1
    · subst hk
      refine fwp_ret ⟨⟨fun hlt => by omega, fun j hj => ⟨congrArg some (by omega), _, rfl⟩⟩, next,
        ⟨h1.proposal, h1.run, h1.checkpoint⟩, fun hk => by omega, fun _ => hholds⟩
  · refine ⟨hR, fun _ => iff_of_false (not_retryable_crashed _ _) ?_, fun h2 => by omega⟩
    rw [hcrash]
    simp
  · unfold Flow.catching
    rw [if_pos fault.storage]
    exact wp_ret ⟨hR, fun _ => iff_of_true (retryable_storageFailed ..) hraise, fun h2 => by omega⟩
  · subst hn
    exact fwp_ret ⟨hR, fun hlt => by omega, fun _ => ⟨rfl, rfl⟩⟩

/-- **The writes of a request made from the start**, under one fault. -/
theorem fwp_request (runtime : PrimaryAgentRuntime) (h : RequestRecords st.world.store id p run c)
    (hreq : Requestable e st p run) (hagent : Interrupting e) :
    e.FWp who fault (request runtime id) (some n) (fun x =>
      RequestAfter st.world.store id p run c (fault.effective n) x.final.world.store ∧
      RequestReturns fault n x) st := by
  have untouched {s : Store} (hk : fault.effective n < 4) (hs : s = st.world.store) :
      RequestAfter st.world.store id p run c (fault.effective n) s :=
    ⟨fun _ => hs, fun _ => by omega⟩
  refine fwp_try_struck (fwp_lookup h) (fun hn hcrash st' h' => ?_) (fun hn hraise st' h' => ?_)
    fun k v st1 hn h' => ?_
  · have hle := fault.effective_le (n := n)
    exact ⟨untouched (by omega) h'.1, requestReturns_crashed hcrash (by omega) ..⟩
  · have hle := fault.effective_le (n := n)
    unfold Flow.catching
    split
    · rename_i hdep
      refine wp_ret ⟨untouched (by omega) h'.1, fun _ => ?_, fun h7 => by omega⟩
      exact iff_of_true (retryable_storageFailed ..) ⟨hraise, .inl hdep⟩
    · rename_i hdep
      refine wp_raise ⟨untouched (by omega) h'.1, fun _ => ?_, fun h7 => by omega⟩
      refine iff_of_false (not_retryable_raised _ _ _) fun hr => ?_
      exact hr.2.elim hdep fun h5 => by omega
  obtain ⟨hs, htick, hv⟩ := h'
  subst hn
  obtain rfl := hv v rfl
  have htick := htick rfl
  have h1 : RequestRecords st1.world.store id p run c := hs ▸ h
  have hstate : run.state ≠ .awaitingApproval := by
    rw [hreq.state]
    decide
  dsimp only
  rw [if_neg hstate, if_neg (by simp [hreq.proposed, hreq.state, h.runId])]
  have hnow : run.updatedAt ≤ e.now (st1.tick + 1) := by
    rw [htick]
    exact hreq.updated
  refine fwp_try_struck (fwp_startAwaiting h1 hreq.proposed hreq.state hnow)
    (fun hn hcrash st' h' => ?_) (fun hn hraise st' h' => ?_) fun m v st2 hn h' => ?_
  · obtain ⟨-, hnone, hsome⟩ := h'
    have hadd := fault.effective_add (n := k) 3
    refine ⟨⟨fun hlt => ?_, fun hle => ?_⟩, requestReturns_crashed hcrash (by omega) ..⟩
    · rw [hnone (by omega), hs]
    · obtain ⟨run', h2, hbefore, hafter, -⟩ := hsome (by omega)
      have hle2 := fault.effective_le (n := k)
      exact ⟨run', c, h2, fun hlt => hbefore (by omega), fun h5 => hafter (by omega), fun _ => rfl,
        fun h6 => by omega⟩
  · obtain ⟨-, hnone, hsome⟩ := h'
    have hadd := fault.effective_add (n := k) 3
    have hle2 := fault.effective_le (n := k)
    have hafter : RequestAfter st.world.store id p run c (fault.effective (k + 3))
        st'.world.store := by
      refine ⟨fun hlt => ?_, fun hle => ?_⟩
      · rw [hnone (by omega), hs]
      · obtain ⟨run', h2, hbefore, hafter, -⟩ := hsome (by omega)
        exact ⟨run', c, h2, fun hlt => hbefore (by omega), fun h5 => hafter (by omega),
          fun _ => rfl, fun h6 => by omega⟩
    have hstorage := fault.storage
    cases herror : fault.error with
    | storageConflict message =>
      refine wp_ret ⟨hafter, fun _ => iff_of_false ?_ ?_, fun h7 => by omega⟩
      · rintro ⟨f, hf, hretry⟩
        cases hf
        cases hretry
      · rw [herror]
        rintro ⟨-, hdep | h5⟩
        · cases hdep
        · omega
    | storageDependency message =>
      refine wp_ret ⟨hafter, fun _ => iff_of_true (retryable_storageFailed ..) ⟨hraise, .inl ?_⟩,
        fun h7 => by omega⟩
      rw [herror]
      rfl
    | _ =>
      rw [herror] at hstorage
      cases hstorage
  -- both have moved: the agent is asked, and its interrupt is saved
  obtain ⟨hlog, -, hsome⟩ := h'
  subst hn
  have hle := fault.le_effective (n := m + 2)
  obtain ⟨run', h2, -, hawaiting, hdone⟩ := hsome (by omega)
  obtain ⟨htick2, hbudget, hv⟩ := hdone rfl
  obtain rfl := hv v rfl
  have hleft : BudgetLeft run' := by
    unfold BudgetLeft
    rw [hbudget]
    exact hreq.budget
  dsimp only [requestInterrupt]
  unfold BudgetLeft at hleft
  rw [if_neg hleft]
  obtain ⟨interruptId, hinterrupt⟩ := hagent st2.tick (.requestStop p.proposalId
    (run'.budget.maxTurns - run'.budget.turnsUsed)
    (min (run'.budget.maxTokens - run'.budget.tokensUsed) runtime.maxOutputTokens)
    (run'.budget.maxTokens - run'.budget.tokensUsed))
  refine fwp_try (R := fun x => x = ⟨some (.ok ⟨"interrupt", [interruptId], none⟩), some m, st2.next⟩)
    (fwp_agent ?_) (fun reply l st3 h3 => ?_) (fun x l st3 h3 => by cases h3) fun l st3 h3 => by cases h3
  · rw [hinterrupt]
  cases h3
  have hrun : run'.runId = run.runId := (h2.runId).trans h.runId.symm
  have hunused : st2.next.world.store.auditEvents.get (run'.runId, e.ids (st2.next.tick + 2)) =
      none := by
    have heq : st2.next.tick + 2 = st.tick + 9 := by
      rw [Solo.next_tick, htick2, htick]
    rw [Solo.next_world, hlog, hs, hrun, heq]
    exact hreq.unused
  have hroom : st2.next.world.store.countAuditEvents run'.runId < MAX_AUDIT_EVENTS_PER_RUN := by
    unfold Store.countAuditEvents
    rw [Solo.next_world, hlog, hs, hrun]
    exact hreq.room
  have hplain : ¬"interrupt".startsWith "limit_" := by decide +kernel
  dsimp only [handleReply]
  rw [if_neg hplain, if_pos rfl]
  have h3 : RequestRecords st2.next.world.store id p.awaiting run' c := h2
  refine FWp.mono (fun x hx => ?_) (fwp_checkpointInterrupt h3 interruptId hunused hroom)
  obtain ⟨⟨c', h3, hbefore, hafter⟩, hretry, hreturns⟩ := hx
  have hadd : fault.effective (m + 2 + 3) = fault.effective m + 5 := fault.effective_add 5
  have hle5 := fault.le_effective (n := m)
  refine ⟨⟨fun hlt => by omega, fun _ => ⟨run', c', h3, fun hlt => by omega, fun _ => ?_, fun hlt => ?_,
    fun h6 => ⟨interruptId, hafter (by omega)⟩⟩⟩, fun hlt => ?_, fun h7 => ?_⟩
  · exact hawaiting (by omega)
  · exact hbefore (by omega)
  · rw [hretry (by omega)]
    exact ⟨fun hc => ⟨hc, .inr (by omega)⟩, fun hc => hc.1⟩
  · obtain ⟨hl, ho⟩ := hreturns (by omega)
    refine ⟨hl, fun o ho' => ?_⟩
    rw [ho] at ho'
    cases ho'
    exact ⟨_, c', rfl, h3.checkpoint, hafter (by omega)⟩

/-- A request made from the start and not disturbed. -/
theorem wp_request (runtime : PrimaryAgentRuntime) (h : RequestRecords st.world.store id p run c)
    (hreq : Requestable e st p run) (hagent : Interrupting e) :
    e.Wp who (request runtime id) (fun o st' => Requested o st'.world.store) st :=
  wp_of_fwp .late 7 (FWp.mono (fun _ hx => hx.2.requested le_rfl)
    (fwp_request runtime h hreq hagent))

/-! ## What a request needs -/

/-- The lookups of a fault-free `request`. -/
theorem wp_lookup {Q : Except PyExc (ControlResult (ActionProposal × Option Run × Option Checkpoint)) →
      Solo ι → Prop}
    (hnone : st.world.store.proposals.get id = none → ∀ f st', Q (.ok (.failed f)) st')
    (hsome : ∀ p, st.world.store.proposals.get id = some p → ∀ st',
      st'.world.store = st.world.store → st'.tick = st.tick + 3 →
      Q (.ok (.succeeded (p, st.world.store.runs.get p.runId,
        st.world.store.checkpoints.get p.runId))) st') : e.Wp who (lookup id) Q st := by
  refine wp_op_bind (v := st.world.store.proposals.get id) rfl ?_
  cases hp : st.world.store.proposals.get id with
  | none => exact wp_ret (hnone hp _ _)
  | some p =>
    refine wp_op_bind (v := st.world.store.runs.get p.runId) rfl ?_
    refine wp_op_bind (v := st.world.store.checkpoints.get p.runId) rfl ?_
    exact wp_ret (hsome p hp _ rfl rfl)

/-- A run that awaits its approval: the interrupt is looked for in the checkpoint. -/
theorem wp_request_awaiting (runtime : PrimaryAgentRuntime)
    (h : RequestRecords st.world.store id p run c) (hs : run.state = .awaitingApproval) :
    e.Wp who (request runtime id) (fun o st' => o = .ok (reconcileInterrupt run p c) ∧
      st'.world.store = st.world.store) st := by
  refine wp_try (R := fun o st' => o = .ok (.succeeded (p, some run, some c)) ∧
    st'.world.store = st.world.store) (wp_lookup (fun hnone => ?_) fun p' hp st' hst _ => ?_)
    (fun a st' h' => ?_) fun x st' h' => by cases h'.1
  · rw [h.proposal] at hnone
    cases hnone
  · rw [h.proposal] at hp
    cases hp
    rw [h.run, h.checkpoint]
    exact ⟨rfl, hst⟩
  · obtain ⟨ha, hst⟩ := h'
    cases ha
    dsimp only
    rw [if_pos hs]
    exact wp_ret ⟨rfl, hst⟩

/-- A proposal whose approval is requested while its run was left behind. -/
theorem wp_request_invalid (runtime : PrimaryAgentRuntime)
    (h : RequestRecords st.world.store id p run c) (hs : run.state = .remediationProposed)
    (hp : p.state ≠ .proposed) :
    e.Wp who (request runtime id) (fun o _ => ∃ f, o = .ok (.failed f)) st := by
  refine wp_try (R := fun o _ => o = .ok (.succeeded (p, some run, some c)))
    (wp_lookup (fun hnone => ?_) fun p' hp' st' _ _ => ?_) (fun a st' h' => ?_)
    fun x st' h' => by cases h'
  · rw [h.proposal] at hnone
    cases hnone
  · rw [h.proposal] at hp'
    cases hp'
    rw [h.run, h.checkpoint]
  · cases h'
    have hstate : run.state ≠ .awaitingApproval := by
      rw [hs]
      decide
    dsimp only
    rw [if_neg hstate, if_pos (.inr (.inl hp))]
    exact wp_ret ⟨_, rfl⟩

/-- What a program can return at all is known of what it returns. -/
theorem wp_returns {α : Type} {R : α → Prop} {q : Flow α} (hq : q.Returns R) (st : Solo ι) :
    e.Wp who q (fun o _ => ∀ a, o = .ok a → R a) st := by
  induction q generalizing st with
  | ret a =>
    intro b hb
    cases hb
    exact hq
  | raise x =>
    intro b hb
    cases hb
  | call r k ih => exact ih _ (hq _) _

/-- The request did not return an interrupt. -/
abbrev Unrequested (o : Except PyExc (ControlResult ApprovalInterrupt)) : Prop :=
  ¬∃ i, o = .ok (.succeeded i)

theorem unrequested_returns {q : Flow (ControlResult ApprovalInterrupt)}
    (hq : q.Returns fun x => ∃ f, x = .failed f) (st : Solo ι) :
    e.Wp who q (fun o _ => Unrequested o) st := by
  refine (wp_returns hq st).mono fun o _ ho => ?_
  rintro ⟨i, rfl⟩
  obtain ⟨f, hf⟩ := ho _ rfl
  cases hf

theorem auditedRequestFailure_returns (run : Run) (p : ActionProposal) (type : AuditEventType)
    (failure : FailureDetail) (message : String) :
    (auditedRequestFailure run p type failure message).Returns fun x => ∃ f, x = .failed f :=
  Flow.returns_catching ⟨_, rfl⟩ fun _ => Flow.returns_catching ⟨_, rfl⟩ fun _ => ⟨_, rfl⟩

/-- Without a new identifier and room for it the audit event is refused. -/
theorem append_refused {s : Store} {event : AuditEvent}
    (h : ¬(s.auditEvents.get (event.runId, event.eventId) = none ∧
      s.countAuditEvents event.runId < MAX_AUDIT_EVENTS_PER_RUN)) :
    ∃ message, (Op.appendAuditEvent event).run s = .error (.storageConflict message) := by
  simp only [Op.run, Store.appendAuditEvent]
  split
  · exact ⟨_, rfl⟩
  rename_i hunused
  split
  · exact ⟨_, rfl⟩
  rename_i hroom
  exact absurd ⟨by simpa using hunused, not_le.mp hroom⟩ h

/-- The two transitions, the clock of the second showing a time before the run's last change. -/
theorem wp_startAwaiting_late (h : RequestRecords st.world.store id p run c)
    (hp : p.state = .proposed) (hs : run.state = .remediationProposed)
    (ht : ¬run.updatedAt ≤ e.now (st.tick + 1)) :
    e.Wp who (startAwaiting run p) (fun o _ => ∃ message, o = .error (.valueError message)) st := by
  obtain ⟨s1, hpropose, h1, -⟩ := h.propose hp
  have hget : s1.runs.get run.runId = some run := by rw [h.runId, h1.run]
  have hallowed : WorkflowState.awaitingApproval ∈
      ALLOWED_WORKFLOW_TRANSITIONS .remediationProposed := by decide
  have hlate : (Op.transitionRun run.runId .awaitingApproval .remediationProposed run.version
      (e.now (st.tick + 1)) none none).run s1 =
        .error (.valueError "updated_at must not precede the current run timestamp") := by
    simp only [Op.run, Store.transitionRun, hget, Option.elim_some, bind, Except.bind, hs, ne_eq,
      not_true, or_self, if_false, Store.decisionCheck, Store.successCheck, reduceCtorEq,
      CloudOpsAgent.transitionRun, validateWorkflowTransition, hallowed, if_true, ht, dite_false]
    rfl
  exact wp_op_bind hpropose (wp_clock_bind (wp_op_refused hlate ⟨_, rfl⟩))

/-- The checkpoint of the interrupt, its audit event being refused. -/
theorem wp_checkpointInterrupt_refused (h : RequestRecords st.world.store id p run c)
    (interruptId : String)
    (hrefused : ¬(st.world.store.auditEvents.get (run.runId, e.ids (st.tick + 2)) = none ∧
      st.world.store.countAuditEvents run.runId < MAX_AUDIT_EVENTS_PER_RUN)) :
    e.Wp who (checkpointInterrupt run p c interruptId) (fun o _ => Unrequested o) st := by
  obtain ⟨next, s1, hvalid, hsave, -, -, hlog⟩ := h.save interruptId (e.now st.tick)
  refine wp_try (R := fun o _ => ∃ message, o = .error (.storageConflict message)) ?_
    (fun a st' ha => ?_) fun x st' hx => ?_
  · refine wp_clock_bind ?_
    rw [hvalid]
    refine wp_op_bind hsave (wp_freshId_bind (wp_clock_bind ?_))
    obtain ⟨message, hm⟩ : ∃ message, (Op.appendAuditEvent {
        eventId := e.ids (st.tick + 2)
        runId := run.runId
        type := .approvalRequested
        timestamp := e.now (st.tick + 3)
        source := "strands-hitl"
        toolName := some "stop_sandbox_instance"
        redactedPayloadHash := approvalRequestHash (buildApprovalPayload p)
        metadata := ((Dict.ofPairs [("proposal_id", p.proposalId.str)]).insert "trace_id"
          run.traceId.str).insert "correlation_id" run.correlationId.str }).run s1 =
          .error (.storageConflict message) := by
      refine append_refused fun hok => hrefused ?_
      unfold Store.countAuditEvents at hok ⊢
      rw [hlog] at hok
      exact hok
    exact wp_op_refused hm ⟨message, rfl⟩
  · obtain ⟨_, ha⟩ := ha
    cases ha
  · obtain ⟨_, hx⟩ := hx
    cases hx
    refine wp_ret ?_
    rintro ⟨i, hi⟩
    cases hi

/-- **What a fault-free request needs** to return an interrupt: that it can be made from the start,
    or that the checkpoint of the awaiting run holds one. -/
theorem requested_needs (runtime : PrimaryAgentRuntime) (hagent : Interrupting e)
    (h : e.Wp who (request runtime id) (fun o _ => ∃ i, o = .ok (.succeeded i)) st) :
    ∃ p run c, RequestRecords st.world.store id p run c ∧
      (run.state = .awaitingApproval ∧ (∃ i, reconcileInterrupt run p c = .succeeded i) ∨
        Requestable e st p run) := by
  by_contra hno
  suffices hrefused : e.Wp who (request runtime id) (fun o _ => Unrequested o) st from hrefused h
  have failed (f : FailureDetail) (st' : Solo ι) :
      e.Wp who (.ret (.failed f) : Flow (ControlResult ApprovalInterrupt))
        (fun o _ => Unrequested o) st' := by
    refine wp_ret ?_
    rintro ⟨i, hi⟩
    cases hi
  refine wp_try (R := fun o st' => (∃ f, o = .ok (.failed f)) ∨
      ∃ p, o = .ok (.succeeded (p, st.world.store.runs.get p.runId,
        st.world.store.checkpoints.get p.runId)) ∧ st.world.store.proposals.get id = some p ∧
        st'.world.store = st.world.store ∧ st'.tick = st.tick + 3)
    (wp_lookup (fun _ f _ => .inl ⟨f, rfl⟩) fun p hp _ hs ht => .inr ⟨p, rfl, hp, hs, ht⟩)
    (fun a st1 h1 => ?_) fun x st1 h1 => ?_
  · obtain ⟨f, hf⟩ | ⟨p, ha, hp, hst, htick⟩ := h1
    · cases hf
      exact failed _ _
    cases ha
    dsimp only
    cases hrun : st.world.store.runs.get p.runId with
    | none => exact failed _ _
    | some run =>
    cases hc : st.world.store.checkpoints.get p.runId with
    | none => exact failed _ _
    | some c =>
    have hrecords : RequestRecords st.world.store id p run c := ⟨hp, hrun, hc⟩
    have hneeds := fun hcond => hno ⟨p, run, c, hrecords, hcond⟩
    dsimp only
    split
    · rename_i hs
      refine wp_ret ?_
      rintro ⟨i, hi⟩
      exact hneeds (.inl ⟨hs, i, by simpa using hi⟩)
    split
    · exact failed _ _
    rename_i hvalid
    obtain ⟨hs, hproposed, -⟩ : run.state = .remediationProposed ∧ p.state = .proposed ∧
        p.runId = run.runId := by
      simpa only [not_or, not_not] using hvalid
    have h1 : RequestRecords st1.world.store id p run c := hst ▸ hrecords
    by_cases hlate : run.updatedAt ≤ e.now (st1.tick + 1)
    · -- the transitions are made, so it is the budget or the audit event that is refused
      have hstart : e.Wp who (startAwaiting run p) (fun o st' => ∃ run', o = .ok (p.awaiting, run') ∧
          RequestRecords st'.world.store id p.awaiting run' c ∧ run'.budget = run.budget ∧
          st'.world.store.auditEvents = st1.world.store.auditEvents ∧ st'.tick = st1.tick + 3)
          st1 := by
        refine wp_of_fwp .late 2 (FWp.mono (fun x hx => ?_) (fwp_startAwaiting h1 hproposed hs hlate))
        obtain ⟨⟨-, hk⟩, hlog, -, hsome⟩ := hx
        obtain ⟨hl, v, hv⟩ := hk 0 rfl
        obtain ⟨run', h2, -, -, hdone⟩ := hsome (by decide)
        obtain ⟨htick', hbudget, hval⟩ := hdone (hl ▸ rfl)
        refine ⟨hl ▸ rfl, fun o ho => ⟨run', ?_, h2, hbudget, hlog, htick'⟩⟩
        rw [hv] at ho
        cases ho
        rw [hval v hv]
      refine wp_try hstart (fun a st2 h2 => ?_) fun x st2 h2 => ?_
      · obtain ⟨run', ha, h2, hbudget, hlog, htick2⟩ := h2
        cases ha
        dsimp only [requestInterrupt]
        split
        · exact unrequested_returns (auditedRequestFailure_returns ..) _
        rename_i hleft
        refine wp_try (R := fun o st' => (∃ interruptId, o =
            .ok ⟨"interrupt", [interruptId], none⟩) ∧ st' = st2.next) (wp_agent ⟨?_, rfl⟩)
          (fun reply st3 h3 => ?_) fun x st3 h3 => ?_
        · obtain ⟨interruptId, hi⟩ := hagent st2.tick (.requestStop p.proposalId
            (run'.budget.maxTurns - run'.budget.turnsUsed)
            (min (run'.budget.maxTokens - run'.budget.tokensUsed) runtime.maxOutputTokens)
            (run'.budget.maxTokens - run'.budget.tokensUsed))
          exact ⟨interruptId, hi⟩
        · obtain ⟨⟨interruptId, hreply⟩, rfl⟩ := h3
          cases hreply
          have hplain : ¬"interrupt".startsWith "limit_" := by decide +kernel
          dsimp only [handleReply]
          rw [if_neg hplain, if_pos rfl]
          have h3 : RequestRecords st2.next.world.store id p.awaiting run' c := h2
          refine wp_checkpointInterrupt_refused h3 interruptId fun hok => hneeds (.inr ?_)
          have hid : run'.runId = run.runId := h2.runId.trans hrecords.runId.symm
          have htick9 : st2.next.tick + 2 = st.tick + 9 := by
            rw [Solo.next_tick, htick2, htick]
          obtain ⟨hunused, hroom⟩ := hok
          unfold Store.countAuditEvents at hroom
          rw [Solo.next_world, hlog, hst, hid] at hunused hroom
          rw [htick9] at hunused
          refine ⟨hproposed, hs, ?_, ?_, hunused, hroom⟩
          · unfold BudgetLeft
            rw [← hbudget]
            exact hleft
          · rw [htick] at hlate
            exact hlate
        · obtain ⟨⟨_, hx⟩, -⟩ := h3
          cases hx
      · obtain ⟨_, hx, -⟩ := h2
        cases hx
    · refine wp_try (wp_startAwaiting_late h1 hproposed hs hlate) (fun a st2 h2 => ?_)
        fun x st2 h2 => ?_
      · obtain ⟨_, ha⟩ := h2
        cases ha
      · obtain ⟨_, hx⟩ := h2
        cases hx
        refine wp_raise ?_
        rintro ⟨i, hi⟩
        cases hi
  · obtain ⟨f, hf⟩ | ⟨p, hx, -⟩ := h1
    · cases hf
    · cases hx

/-! ## Retrying a request -/

/-- What is found in the checkpoint is what it holds. -/
theorem reconcileInterrupt_succeeded {i : ApprovalInterrupt}
    (h : reconcileInterrupt run p c = .succeeded i) :
    i.payload = buildApprovalPayload p ∧
      i.requestHash = approvalRequestHash (buildApprovalPayload p) ∧
      HoldsInterrupt c i.interruptId i.requestHash := by
  unfold reconcileInterrupt at h
  split at h
  · cases h
  dsimp only at h
  split at h
  · rename_i interruptId hid
    split at h
    · rename_i hhash
      cases h
      exact ⟨rfl, rfl, hid, hhash⟩
    · cases h
  · cases h

theorem reconcileInterrupt_of_holds {interruptId : String} (hp : p.state = .awaitingApproval)
    (h : HoldsInterrupt c interruptId (approvalRequestHash (buildApprovalPayload p))) :
    ∃ i, reconcileInterrupt run p c = .succeeded i := by
  unfold reconcileInterrupt
  rw [if_neg (not_not.mpr hp)]
  dsimp only
  rw [h.interruptId]
  dsimp only
  rw [if_pos h.requestHash]
  exact ⟨_, rfl⟩

/-- A request for an awaiting run whose checkpoint holds the interrupt. -/
theorem wp_request_held (runtime : PrimaryAgentRuntime)
    (h : RequestRecords st.world.store id p run c) (hs : run.state = .awaitingApproval)
    (hi : ∃ i, reconcileInterrupt run p c = .succeeded i) :
    e.Wp who (request runtime id) (fun o st' => Requested o st'.world.store) st := by
  obtain ⟨i, hi⟩ := hi
  refine (wp_request_awaiting runtime h hs).mono fun o st' h' => ?_
  obtain ⟨ho, hst⟩ := h'
  obtain ⟨hpayload, -, hholds⟩ := reconcileInterrupt_succeeded hi
  refine ⟨i, c, ?_, ?_, hholds⟩
  · rw [ho, hi]
  · rw [hst, hpayload]
    exact h.checkpoint

/-- A request for an awaiting run writes nothing. -/
theorem fwp_request_awaiting (runtime : PrimaryAgentRuntime)
    (h : RequestRecords st.world.store id p run c) (hs : run.state = .awaitingApproval) :
    e.FWp who fault (request runtime id) (some n)
      (fun x => x.final.world.store = st.world.store) st := by
  refine fwp_try_struck (fwp_lookup h) (fun _ _ st' h' => h'.1) (fun _ _ st' h' => ?_)
    fun k v st1 hn h' => ?_
  · unfold Flow.catching
    split
    · exact wp_ret h'.1
    · exact wp_raise h'.1
  · obtain ⟨hst, -, hv⟩ := h'
    obtain rfl := hv v rfl
    dsimp only
    rw [if_pos hs]
    exact fwp_ret hst

/-- **A failure called retryable can be retried**: the later request returns the interrupt and leaves
    a checkpoint that holds it. -/
def RequestCompletes (e e' : Environment) (who who' : ι) (fault : Fault) (n : Nat)
    (runtime runtime' : PrimaryAgentRuntime) (id : UUID) (w : World ι) : Prop :=
  let x := e.faulty who fault (request runtime id) (some n) ⟨w, 0⟩
  x.Retryable → e'.Wp who' (request runtime' id) (fun o st' => Requested o st'.world.store)
    ⟨x.final.world, 0⟩

/-- The fault is reported as a retryable failure and leaves the proposal moved and the run behind, or
    both moved and the interrupt nowhere. -/
def LeavesHalfRequested (fault : Fault) (n : Nat) (s : Store) (id : UUID) : Prop :=
  fault.mode.crashes = false ∧ (fault.error.isDependency = true ∨ 5 ≤ n) ∧
    ∃ p run c, RequestRecords s id p run c ∧ run.state = .remediationProposed ∧
      (fault.effective n = 4 ∨ fault.effective n = 5 ∧
        ¬∃ interruptId, HoldsInterrupt c interruptId (approvalRequestHash (buildApprovalPayload p)))

/-- A request left half way is refused from then on. -/
theorem not_completes_of_leaves {w : World ι} {runtime runtime' : PrimaryAgentRuntime}
    (h : RequestRecords w.store id p run c) (hreq : Requestable e ⟨w, 0⟩ p run)
    (hagent : Interrupting e) (hleaves : LeavesHalfRequested fault n w.store id) :
    ¬RequestCompletes e e' who who' fault n runtime runtime' id w := by
  obtain ⟨hraise, herror, p', run', c', h', -, hk⟩ := hleaves
  obtain rfl : p' = p := Option.some.inj (h'.proposal.symm.trans h.proposal)
  obtain rfl : run' = run := Option.some.inj (h'.run.symm.trans h.run)
  obtain rfl : c' = c := Option.some.inj (h'.checkpoint.symm.trans h.checkpoint)
  have hle := fault.le_effective (n := n)
  have hfirst : e.FWp who fault (request runtime id) (some n) _ ⟨w, 0⟩ :=
    fwp_request runtime h hreq hagent
  obtain ⟨hafter, hreturns⟩ := hfirst
  intro hcompletes
  have hretry : e'.Wp who' (request runtime' id) _ ⟨_, 0⟩ :=
    hcompletes ((hreturns.retryable (by omega)).mpr ⟨hraise, herror⟩)
  obtain ⟨i, d, ho, -⟩ := hretry
  obtain ⟨run'', c'', h'', hbefore, hawaiting, hsaved, -⟩ := hafter.moved (by omega)
  obtain rfl := hsaved (by omega)
  rcases hk with hk | ⟨hk, hnone⟩
  · -- the run was left behind
    obtain rfl := hbefore (by omega)
    have hinvalid : e'.Wp who' (request runtime' id) _ ⟨_, 0⟩ :=
      wp_request_invalid runtime' h'' hreq.state (by simp)
    obtain ⟨f, hf⟩ := hinvalid
    rw [ho] at hf
    cases hf
  · -- the interrupt is nowhere
    have hlost : e'.Wp who' (request runtime' id) _ ⟨_, 0⟩ :=
      wp_request_awaiting runtime' h'' (hawaiting (by omega))
    obtain ⟨hr, -⟩ := hlost
    rw [ho] at hr
    injection hr with hr
    obtain ⟨-, hhash, hholds⟩ := reconcileInterrupt_succeeded hr.symm
    rw [hhash] at hholds
    exact hnone ⟨_, hholds⟩

/-- **When an approval request can be retried**: unless its retryable failure leaves the request half
    way. -/
theorem request_completes_iff (w : World ι) (runtime runtime' : PrimaryAgentRuntime)
    (hagent : Interrupting e) (hagent' : Interrupting e')
    (h : e.Wp who (request runtime id) (fun o _ => ∃ i, o = .ok (.succeeded i)) ⟨w, 0⟩)
    (h' : e'.Wp who' (request runtime' id) (fun o _ => ∃ i, o = .ok (.succeeded i)) ⟨w, 0⟩)
    (n : Nat) : RequestCompletes e e' who who' fault n runtime runtime' id w ↔
      ¬LeavesHalfRequested fault n w.store id := by
  obtain ⟨p, run, c, hrecords, hcase⟩ := requested_needs runtime hagent h
  obtain ⟨p', run', c', hrecords', hcase'⟩ := requested_needs runtime' hagent' h'
  obtain rfl : p' = p := Option.some.inj (hrecords'.proposal.symm.trans hrecords.proposal)
  obtain rfl : run' = run := Option.some.inj (hrecords'.run.symm.trans hrecords.run)
  obtain rfl : c' = c := Option.some.inj (hrecords'.checkpoint.symm.trans hrecords.checkpoint)
  rcases hcase with ⟨hs, hi⟩ | hreq
  · -- the run awaits its approval already
    refine iff_of_true (fun _ => ?_) ?_
    · have hfirst : e.FWp who fault (request runtime id) (some n) _ ⟨w, 0⟩ :=
        fwp_request_awaiting runtime hrecords hs
      refine wp_request_held runtime' ?_ hs hi
      exact hfirst ▸ hrecords
    · rintro ⟨-, -, p, run, c, h'', hstate, -⟩
      obtain rfl : p = p' := Option.some.inj (h''.proposal.symm.trans hrecords.proposal)
      obtain rfl : run = run' := Option.some.inj (h''.run.symm.trans hrecords.run)
      rw [hs] at hstate
      cases hstate
  refine ⟨fun hc hl => not_completes_of_leaves hrecords hreq hagent hl hc, fun hl hretryable => ?_⟩
  have hreq' : Requestable e' ⟨w, 0⟩ p' run' := by
    refine hcase'.resolve_left ?_
    rintro ⟨hs, -⟩
    rw [hreq.state] at hs
    cases hs
  have hfirst : e.FWp who fault (request runtime id) (some n) _ ⟨w, 0⟩ :=
    fwp_request runtime hrecords hreq hagent
  obtain ⟨hafter, hreturns⟩ := hfirst
  by_cases hk : fault.effective n < 4
  · -- nothing has taken effect: the retry is a request from the start
    have hst := hafter.untouched hk
    refine wp_request runtime' (hst ▸ hrecords) ⟨hreq'.proposed, hreq'.state, hreq'.budget,
      hreq'.updated, ?_, ?_⟩ hagent'
    · rw [hst]
      exact hreq'.unused
    · rw [hst]
      exact hreq'.room
  obtain ⟨run'', c'', h'', -, hawaiting, hbefore, hsaved⟩ := hafter.moved (by omega)
  have hle := fault.effective_le (n := n)
  have hraised : n < 7 → fault.mode.crashes = false ∧ (fault.error.isDependency = true ∨ 5 ≤ n) :=
    fun hn => (hreturns.retryable hn).mp hretryable
  have hnot : ¬fault.effective n = 4 := by
    intro h4
    have hge := fault.le_effective (n := n)
    obtain ⟨hc, herror⟩ := hraised (by omega)
    exact hl ⟨hc, herror, p', run', c', hrecords, hreq.state, .inl h4⟩
  refine wp_request_held runtime' h'' (hawaiting (by omega)) ?_
  by_cases h5 : fault.effective n = 5
  · obtain rfl := hbefore (by omega)
    have hge := fault.le_effective (n := n)
    obtain ⟨hc, herror⟩ := hraised (by omega)
    by_contra hlost
    refine hl ⟨hc, herror, p', run', c'', hrecords, hreq.state, .inr ⟨h5, ?_⟩⟩
    rintro ⟨interruptId, hholds⟩
    exact hlost (reconcileInterrupt_of_holds rfl hholds)
  · obtain ⟨interruptId, hholds⟩ := hsaved (by omega)
    exact reconcileInterrupt_of_holds rfl hholds

end DurableApprovalFlow

end ApprovalRequests

namespace Sample

open DurableApprovalFlow

section Requested

variable [Sha256]

/-- The run as its proposal is made. -/
def proposed : Run := { run with state := .remediationProposed, version := 4, version_pos := by decide }

/-- The checkpoint of its evidence. -/
def evidenced : Checkpoint where
  runId := uid 1
  lastSafeState := .evidenceReady
  toolResultHashes := Dict.ofPairs [("build_remediation_evidence", ⟨0⟩)]
  createdAt := 0
  valid := rfl

def proposedStore : Store where
  runs := (∅ : Table _).put proposed
  proposals := (∅ : Table _).put { proposal with state := .proposed }
  checkpoints := (∅ : Table _).put evidenced

/-- An agent that interrupts. -/
def interrupting (k : Nat) : Environment :=
  { environment k acknowledges with
    agent := fun _ _ => .ok ⟨"interrupt", ["interrupt"], none⟩ }

theorem interrupting_interrupts (k : Nat) : Interrupting (interrupting k) := fun _ _ => ⟨_, rfl⟩

theorem requestRecords :
    RequestRecords proposedStore (uid 4) { proposal with state := .proposed } proposed evidenced :=
  ⟨rfl, rfl, rfl⟩

theorem requestable (k : Nat) : Requestable (interrupting k) (⟨⟨proposedStore, []⟩, 0⟩ : Solo Nat)
    { proposal with state := .proposed } proposed where
  proposed := rfl
  state := rfl
  budget := by
    show ¬((10 : Nat) - 0 = 0 ∨ (1000 : Nat) - 0 = 0 ∨ (60 : Nat) * 1000 - 0 = 0)
    omega
  updated := Nat.zero_le _
  unused := rfl
  room := by
    show (0 : Nat) < MAX_AUDIT_EVENTS_PER_RUN
    decide

/-- A request of the sample run that is not disturbed returns its interrupt. -/
theorem requests (k : Nat) : (interrupting k).Wp 0 (DurableApprovalFlow.request ⟨uid 4, 100⟩ (uid 4))
    (fun o _ => ∃ i, o = .ok (.succeeded i)) (⟨⟨proposedStore, []⟩, 0⟩ : Solo Nat) := by
  have h : (interrupting k).Wp 0 (DurableApprovalFlow.request ⟨uid 4, 100⟩ (uid 4)) _
      (⟨⟨proposedStore, []⟩, 0⟩ : Solo Nat) :=
    wp_request ⟨uid 4, 100⟩ requestRecords (requestable k) (interrupting_interrupts k)
  obtain ⟨i, -, ho, -⟩ := h
  exact ⟨i, ho⟩

/-- The transition of the run is the fifth repository operation of a request. -/
theorem leaves_half_requested : LeavesHalfRequested checkpointFails 4 proposedStore (uid 4) :=
  ⟨rfl, .inl rfl, _, _, _, requestRecords, rfl, .inl rfl⟩

end Requested

attribute [local instance] Sha256.standard in
/-- The run cannot be moved; the retry finds the proposal moved already and refuses. -/
theorem request_not_completed : ¬RequestCompletes (interrupting 0) (interrupting 100) 0 0
    checkpointFails 4 ⟨uid 4, 100⟩ ⟨uid 4, 100⟩ (uid 4) (⟨proposedStore, []⟩ : World Nat) :=
  not_completes_of_leaves requestRecords (requestable 0) (interrupting_interrupts 0)
    leaves_half_requested

attribute [local instance] Sha256.standard in
/-- With a fault at the audit event the retry returns the interrupt. -/
theorem request_completes_sample : RequestCompletes (interrupting 0) (interrupting 100) 0 0
    checkpointFails 6 ⟨uid 4, 100⟩ ⟨uid 4, 100⟩ (uid 4) (⟨proposedStore, []⟩ : World Nat) := by
  refine (request_completes_iff _ ⟨uid 4, 100⟩ ⟨uid 4, 100⟩ (interrupting_interrupts 0)
    (interrupting_interrupts 100) (requests 0) (requests 100) 6).mpr fun h => ?_
  obtain ⟨-, -, -, -, -, -, -, hk | ⟨hk, -⟩⟩ := h
  · exact absurd hk (by decide)
  · exact absurd hk (by decide)

end Sample

end CloudOpsAgent
