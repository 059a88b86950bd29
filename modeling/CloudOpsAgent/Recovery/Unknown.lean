/-
  THE UNKNOWN OUTCOME: the executor raised without a safe acknowledgement, and recovery gives up.

  The failure path of `execute` resolves the idempotency record before it moves the run to
  `RECOVERY_REQUIRED`: the record is `RECONCILIATION_REQUIRED` and no longer `REGISTERED`.  Recovery
  looks at the target only for a `REGISTERED` record, so its read-back is never made, and the run is
  left to an operator.

  1. **What `execute` leaves** — a run it has called the executor for and left in
     `RECOVERY_REQUIRED` has a record that needs reconciliation.

  2. **What `recover` does with it** — it reads, and appends audit events.

  3. **The unknown outcome is never closed**, whatever the target shows.
-/
import CloudOpsAgent.Recovery.Execution
import CloudOpsAgent.Safety.Recovery

namespace CloudOpsAgent

open ClientProg ClientProg.Prog Environment

section Unknown

variable [Sha256] {ι : Type} {e : Environment} {p : ActionProposal} {st : Solo ι} {who : ι}

/-! ## Reads and audit events -/

/-- The operations that leave every record alone but the audit trail. -/
def Op.audits : Op → Bool
  | .getRun _ | .getProposal _ | .getApproval _ | .getIdempotency _ | .getCheckpoint _
  | .getAuditEvent .. | .getVerificationEvidence .. | .appendAuditEvent _ => true
  | _ => false

def Req.audits : Req → Prop
  | .stop _ => False
  | .store op => op.audits
  | _ => True

/-- The records recovery decides on. -/
def Store.SameRecords (s s' : Store) : Prop :=
  s'.runs = s.runs ∧ s'.proposals = s.proposals ∧ s'.idempotency = s.idempotency

theorem Store.SameRecords.refl (s : Store) : s.SameRecords s := ⟨rfl, rfl, rfl⟩

theorem Store.SameRecords.trans {s s' s'' : Store} (h : s.SameRecords s')
    (h' : s'.SameRecords s'') : s.SameRecords s'' :=
  ⟨h'.1.trans h.1, h'.2.1.trans h.2.1, h'.2.2.trans h.2.2⟩

theorem Write.sameRecords {op : Op} {s s' : Store} (h : Write s op s') (hop : op.audits) :
    s.SameRecords s' := by
  cases h with
  | appendAuditEvent hn => exact ⟨rfl, rfl, rfl⟩
  | unchanged h => exact .refl s
  | _ => cases hop

/-- A flow that only reads and audits keeps the records. -/
theorem wp_audits {α : Type} {q : Flow α} (hq : q.Issues Req.audits) :
    e.Wp who q (fun _ st' => st.world.store.SameRecords st'.world.store) st := by
  refine wp_frame (P := Req.audits) (F := fun w => st.world.store.SameRecords w.store)
    (fun w r x w' hr hx h => ?_) hq (.refl _)
  cases r with
  | store op =>
    rcases answers_store hx with rfl | ⟨s, hs, rfl⟩
    · exact h
    · exact h.trans (hs.sameRecords hr)
  | stop command => cases hr
  | _ =>
    cases hx
    exact h

/-- A flow that does not call the executor adds no caller. -/
theorem wp_notCalling {α : Type} {q : Flow α} (hq : q.Issues Req.nonStop) (r : UUID) :
    e.Wp who q (fun _ st' => callers r st'.world.log = callers r st.world.log) st := by
  refine wp_frame (P := Req.nonStop) (F := fun w => callers r w.log = callers r st.world.log)
    (fun w q x w' hr hx h => ?_) hq rfl
  cases q with
  | store op =>
    rcases answers_store hx with rfl | ⟨s, -, rfl⟩
    · exact h
    · rw [callers_applied]
      exact h
  | inspect id identity =>
    cases hx
    rw [World.logged_log, callers_append, h]
    exact List.append_nil _
  | stop command => cases hr
  | _ =>
    cases hx
    exact h

/-- A repository operation takes effect or is refused. -/
theorem wp_op_cases {β : Type} {Q : Except PyExc β → Solo ι → Prop} {o : Op} {f : o.Result → Flow β}
    (hok : ∀ v s, o.run st.world.store = .ok (v, s) → e.Wp who (f v) Q (st.applied who o s))
    (herr : ∀ x, o.run st.world.store = .error x → Q (.error x) st.next) :
    e.Wp who (Flow.op o >>= f) Q st := by
  rcases h : o.run st.world.store with x | ⟨v, s⟩
  · exact wp_op_refused h (herr x h)
  · exact wp_op_bind h (hok v s h)

/-- A read, of whatever is there. -/
theorem wp_read {β : Type} {Q : Except PyExc β → Solo ι → Prop} {o : Op} {f : o.Result → Flow β}
    {v : o.Result} (ho : o.run st.world.store = .ok (v, st.world.store))
    (h : ∀ v', v' = v → e.Wp who (f v') Q (st.applied who o st.world.store)) :
    e.Wp who (Flow.op o >>= f) Q st := wp_op_bind ho (h v rfl)

/-! ## What `execute` leaves -/

namespace StopSandboxInstanceCoordinator

/-- The claimed action is the proposal's, and the repository holds the claimed run. -/
structure ClaimedFor (p : ActionProposal) (s : Store) (c : Claimed) : Prop where
  command : c.command.proposalId = p.proposalId
  key : c.idempotency.idempotencyKey = deriveIdempotencyKey p
  run : s.runs.get p.runId = some c.run
  executing : c.run.state = .executing

/-- The record of the proposal's action needs reconciliation. -/
def Unreconciled (p : ActionProposal) (s : Store) : Prop :=
  ∃ r, s.idempotency.get (deriveIdempotencyKey p) = some r ∧ r.status = .reconciliationRequired

/-- Reading the approved records changes nothing and finds the proposal. -/
theorem wp_requireApprovedRecords_cases
    (hp : st.world.store.proposals.get p.proposalId = some p) :
    e.Wp who (requireApprovedRecords p.proposalId) (fun o st' =>
      st'.world.store = st.world.store ∧ ∀ run proposal a, o = .ok (run, proposal, a) →
        proposal = p ∧ st.world.store.runs.get p.runId = some run) st := by
  unfold requireApprovedRecords
  refine wp_op_bind (v := some p) (congrArg (fun v => Except.ok (v, _)) hp) ?_
  dsimp only
  split
  · exact wp_raise ⟨rfl, fun run proposal a h => by cases h⟩
  refine wp_read (o := .getApproval p.proposalId) rfl fun a _ => ?_
  rcases a with _ | a
  · exact wp_raise ⟨rfl, fun run proposal a h => by cases h⟩
  dsimp only
  split
  · exact wp_raise ⟨rfl, fun run proposal a h => by cases h⟩
  refine wp_read (o := .getRun p.runId) rfl fun run hrun => ?_
  rcases run with _ | run
  · exact wp_raise ⟨rfl, fun run proposal a h => by cases h⟩
  dsimp only
  split
  · exact wp_raise ⟨rfl, fun run proposal a h => by cases h⟩
  · refine wp_ret ⟨rfl, fun run' proposal a h => ?_⟩
    cases h
    exact ⟨rfl, hrun.symm⟩

theorem wp_registerApprovedAction_cases (st : Solo ι)
    (hp : st.world.store.proposals.get p.proposalId = some p) (t : Time) :
    e.Wp who (registerApprovedAction p.proposalId t) (fun o st' =>
      st'.world.store.proposals = st.world.store.proposals ∧
        ∀ record, o = .ok record → record.idempotencyKey = deriveIdempotencyKey p) st := by
  unfold registerApprovedAction
  refine wp_bind (wp_requireApprovedRecords_cases hp) ?_ ?_
  · rintro ⟨run, proposal, a⟩ st1 ⟨hst1, hfound⟩
    obtain ⟨rfl, -⟩ := hfound run proposal a rfl
    change e.Wp who (ofExcept (buildIdempotencyRecord proposal t) >>= fun record =>
      Flow.op (.registerIdempotency record)) _ st1
    refine wp_bind (R := fun o st' => st' = st1 ∧ o = buildIdempotencyRecord proposal t)
      (wp_ofExcept ⟨rfl, rfl⟩) ?_ ?_
    rotate_left
    · rintro x st2 ⟨rfl, -⟩
      exact ⟨by rw [hst1], fun record h => by cases h⟩
    rintro record st2 ⟨rfl, hbuild⟩
    have hkey : record.idempotencyKey = deriveIdempotencyKey proposal := by
      unfold buildIdempotencyRecord at hbuild
      split at hbuild <;> cases hbuild
      rfl
    rw [← Prog.bind_ret (Flow.op (.registerIdempotency record))]
    refine wp_op_cases (fun found s hs => ?_) fun x hx => ?_
    · have hstored : s.proposals = st2.world.store.proposals ∧
          IdempotencyRecord.idempotencyKey found = record.idempotencyKey := by
        rcases Store.registerIdempotency_ok hs with ⟨hget, -, -, hs'⟩ | ⟨hx, -, -, hs'⟩
        · rw [hs']
          exact ⟨rfl, Table.key_of_get hget⟩
        · rw [hs', hx]
          exact ⟨rfl, rfl⟩
      refine wp_ret ⟨?_, fun record' h => ?_⟩
      · rw [← hst1]
        exact hstored.1
      · cases h
        exact hstored.2.trans hkey
    · exact ⟨by rw [← hst1]; rfl, fun record h => by cases h⟩
  · rintro x st1 ⟨hst1, -⟩
    exact ⟨by rw [hst1], fun record h => by cases h⟩

theorem wp_loadExecutionPrerequisites_cases
    (hp : st.world.store.proposals.get p.proposalId = some p) :
    e.Wp who (loadExecutionPrerequisites p.proposalId) (fun o st' =>
      ∀ prerequisites, o = .ok prerequisites → prerequisites.proposal = p ∧
        st'.world.store.runs.get p.runId = some prerequisites.run) st := by
  unfold loadExecutionPrerequisites
  refine wp_bind (wp_requireApprovedRecords_cases hp) ?_ ?_
  · rintro ⟨run, proposal, a⟩ st1 ⟨hst1, hfound⟩
    obtain ⟨rfl, hrun⟩ := hfound run proposal a rfl
    rw [← hst1] at hrun
    refine wp_read (o := .getIdempotency _) rfl fun record _ => ?_
    rcases record with _ | record
    · exact wp_raise fun prerequisites h => by cases h
    dsimp only
    split
    · exact wp_raise fun prerequisites h => by cases h
    refine wp_read (o := .getCheckpoint _) rfl fun checkpoint _ => ?_
    rcases checkpoint with _ | checkpoint
    · exact wp_raise fun prerequisites h => by cases h
    dsimp only
    split
    · exact wp_raise fun prerequisites h => by cases h
    split
    · exact wp_raise fun prerequisites h => by cases h
    · refine wp_ret fun prerequisites h => ?_
      cases h
      exact ⟨rfl, hrun⟩
  · rintro x st1 -
    exact fun prerequisites h => by cases h

theorem appendEvent_audits (run : Run) (type : AuditEventType) (h : Sha256Digest)
    (m : Dict String String) : (appendEvent run type h m).Issues Req.audits := by
  simp [appendEvent, Req.audits, Op.audits]

/-- A claim that succeeds has claimed the proposal's action. -/
theorem wp_claim_cases (hp : st.world.store.proposals.get p.proposalId = some p) :
    e.Wp who (claim p p.proposalId) (fun o st' => ∀ claimed, o = .ok claimed →
      ClaimedFor p st'.world.store claimed) st := by
  have raised (x : PyExc) (s : Store) : ∀ claimed, (.error x : Except PyExc Claimed) = .ok claimed →
      ClaimedFor p s claimed := fun claimed h => by cases h
  unfold claim
  refine wp_clock_bind (wp_bind (wp_registerApprovedAction_cases st.next hp _) ?_ ?_)
  · rintro record st1 ⟨hst1, hkey⟩
    have hkey := hkey record rfl
    have hp1 : st1.world.store.proposals.get p.proposalId = some p := by
      rw [hst1]
      exact hp
    refine wp_bind (wp_loadExecutionPrerequisites_cases hp1) ?_ fun x st2 _ => raised x _
    intro prerequisites st2 hload
    obtain ⟨hproposal, hrun⟩ := hload prerequisites rfl
    refine wp_clock_bind (wp_op_cases (fun run s hs => wp_clock_bind ?_) fun x hx => raised x _)
    obtain ⟨current, hcurrent, -, -, -, -, hmoved, rfl⟩ := Store.transitionRun_ok hs
    obtain ⟨-, -, hstate, -, -, hid, -⟩ := transitionRun_ok hmoved
    have hcurrent_id : current.runId = prerequisites.run.runId := Table.key_of_get hcurrent
    have hrun_id : prerequisites.run.runId = p.runId := Table.key_of_get hrun
    refine wp_bind (wp_audits (appendEvent_audits ..)) ?_ fun x st4 _ => raised x _
    rintro - st4 ⟨hruns, -, -⟩
    refine wp_ret fun claimed h => ?_
    cases h
    refine ⟨congrArg (·.proposalId) hproposal, hkey, ?_, hstate⟩
    rw [hruns, ← hrun_id, ← hcurrent_id, ← hid]
    exact Table.get_put_self _ _
  · rintro x st1 -
    exact raised x _

/-- If the run is left in `RECOVERY_REQUIRED`, its record needs reconciliation. -/
def LeftUnreconciled (p : ActionProposal) (s : Store) : Prop :=
  ∀ run, s.runs.get p.runId = some run → run.state = .recoveryRequired → Unreconciled p s

omit [Sha256] in
theorem kind_of_ambiguous {x : PyExc} (h : (executionFailure x).2 = .ambiguous) :
    (executionFailure x).1.kind = .recoveryRequirement := by
  cases x <;> first | rfl | cases h

omit [Sha256] in
theorem completedIdempotencyStatus_ambiguous {x : PyExc}
    (hx : (executionFailure x).2 = .ambiguous) :
    completedIdempotencyStatus (executionFailureResult x) = .reconciliationRequired := by
  have houtcome : (executionFailureResult x).outcome = .ambiguous := hx
  unfold completedIdempotencyStatus
  rw [houtcome]

theorem wp_persistExecutionFailure_cases (st : Solo ι) {claimed : Claimed}
    (hc : ClaimedFor p st.world.store claimed) {x : PyExc}
    (hx : (executionFailure x).2 = .ambiguous) :
    e.Wp who (persistExecutionFailure claimed.run claimed.idempotency.idempotencyKey
      (executionFailure x).1 (executionFailureResult x))
      (fun _ st' => LeftUnreconciled p st'.world.store) st := by
  have hstatus := completedIdempotencyStatus_ambiguous hx
  have hpolicy : (executionFailure x).1.kind ≠ .policyDenial := by
    rw [kind_of_ambiguous hx]
    decide
  -- while the run is `EXECUTING`, there is nothing to show
  have hexecuting : LeftUnreconciled p st.world.store := by
    intro run hrun hstate
    rw [hc.run] at hrun
    cases hrun
    rw [hc.executing] at hstate
    cases hstate
  unfold persistExecutionFailure
  refine wp_try (R := fun _ st' => LeftUnreconciled p st'.world.store) ?_ ?_ ?_
  · simp only [hpolicy, if_false]
    refine wp_clock_bind (wp_op_cases (fun record s hs => wp_clock_bind ?_) fun y _ => hexecuting)
    obtain ⟨current, hget, -, hkey, -, -, -, -, hrecord, -, -, rfl⟩ :=
      Store.completeIdempotency_ok hs
    have hcurrent : current.idempotencyKey = claimed.idempotency.idempotencyKey :=
      Table.key_of_get hget
    have hdone : (st.world.store.idempotency.put record).get (deriveIdempotencyKey p) =
        some record := by
      rw [← hc.key, ← hcurrent, ← hkey]
      exact Table.get_put_self _ _
    refine wp_op_cases (fun run s hs => wp_ret ?_) fun y _ => ?_
    · obtain ⟨-, -, -, -, -, -, -, rfl⟩ := Store.transitionRun_ok hs
      exact fun _ _ _ => ⟨record, hdone, hrecord.trans hstatus⟩
    · exact fun _ _ _ => ⟨record, hdone, hrecord.trans hstatus⟩
  · intro _ st' h
    exact wp_ret h
  · intro y st' h
    unfold Flow.catching
    split
    · exact wp_ret h
    · exact wp_raise h

/-- **What `execute` leaves** when the executor fails without a safe acknowledgement. -/
theorem wp_execute_unknown (who : ι) (st : Solo ι)
    (hp : st.world.store.proposals.get p.proposalId = some p)
    (hunknown : ∀ command, command.proposalId = p.proposalId →
      ∃ x, e.acknowledge command = .error x ∧ (executionFailure x).2 = .ambiguous) :
    e.Wp who (execute p.proposalId) (fun _ st' =>
      callers p.runId st'.world.log = callers p.runId st.world.log ∨
        LeftUnreconciled p st'.world.store) st := by
  unfold execute
  refine wp_try (R := fun o st' => o = .ok (some p) ∧ st'.world.store = st.world.store ∧
    callers p.runId st'.world.log = callers p.runId st.world.log)
    (wp_op (congrArg (fun v => Except.ok (v, _)) hp) ⟨rfl, rfl, callers_applied ..⟩) ?_ ?_
  rotate_left
  · rintro x st1 ⟨hx, -⟩
    cases hx
  rintro found st1 ⟨hfound, hst1, hlog1⟩
  cases hfound
  dsimp only
  have hp1 : st1.world.store.proposals.get p.proposalId = some p := by
    rw [hst1]
    exact hp
  refine wp_try (R := fun o st' => (∃ existing, o = .ok existing) ∧
    st'.world.store = st1.world.store ∧
    callers p.runId st'.world.log = callers p.runId st1.world.log)
    (wp_op rfl ⟨⟨_, rfl⟩, rfl, callers_applied ..⟩) ?_ ?_
  rotate_left
  · rintro x st2 ⟨⟨_, hx⟩, -⟩
    cases hx
  rintro existing st2 ⟨-, hst2, hlog2⟩
  have hsame : callers p.runId st2.world.log = callers p.runId st.world.log := hlog2.trans hlog1
  rcases existing with _ | existing
  · have hp2 : st2.world.store.proposals.get p.proposalId = some p := by
      rw [hst2]
      exact hp1
    refine wp_try ((wp_claim_cases hp2).and
      (wp_notCalling ((claim_plain ..).mono Req.nonStop_of_plain) p.runId)) ?_ ?_
    · rintro claimed st3 ⟨hclaimed, -⟩
      have hc := hclaimed claimed rfl
      obtain ⟨x, hanswer, hx⟩ := hunknown claimed.command hc.command
      unfold callExecutor
      refine wp_try (R := fun o st' => o = .error x ∧ st'.world.store = st3.world.store)
        (wp_stop ⟨hanswer, rfl⟩) ?_ ?_
      · rintro ack st4 ⟨hack, -⟩
        cases hack
      · rintro y st4 ⟨hy, hst4⟩
        cases hy
        refine (wp_persistExecutionFailure_cases st4 ?_ hx).mono fun _ _ h => .inr h
        rw [hst4]
        exact hc
    · rintro y st3 ⟨-, hlog3⟩
      have hquiet : ((claimHandler p.runId y).getD (.raise y)).Issues Req.nonStop := by
        rcases hy : claimHandler p.runId y with _ | handler
        · trivial
        · exact (claimHandler_plain hy).mono Req.nonStop_of_plain
      exact (wp_notCalling hquiet p.runId).mono fun _ _ h => .inl (h.trans (hlog3.trans hsame))
  · refine (wp_notCalling ((reconcileExisting_plain ..).mono Req.nonStop_of_plain)
      p.runId).mono ?_
    exact fun _ _ h => .inl (h.trans hsame)

end StopSandboxInstanceCoordinator

/-! ## What `recover` does with it -/

namespace RecoveryCoordinator

theorem outcome_audits (run : Run) (proposal : Option ActionProposal) (verdict : RecoveryVerdict)
    (type : AuditEventType) : (outcome run proposal verdict type).Issues Req.audits := by
  refine Flow.issues_freshId_bind.mpr ⟨trivial, fun eventId => ?_⟩
  refine Flow.issues_catching ?_ trivial fun _ => ?_
  · simp [Req.audits, Op.audits]
  · split <;> trivial

theorem auditedFailure_audits (run : Run) (proposal : Option ActionProposal)
    (failure : FailureDetail) (type : AuditEventType) :
    (auditedFailure run proposal failure type).Issues Req.audits := by
  refine Flow.issues_catching ?_ trivial fun _ => trivial
  simp [appendEvent, Req.audits, Op.audits]

/-- A snapshot shows what the repository holds. -/
structure Snapshot.Of (store : Store) (request : RecoveryRequest) (s : Snapshot) : Prop where
  run : store.runs.get request.runId = some s.run
  proposal : s.proposal = request.proposalId.bind store.proposals.get
  idempotency : ∀ p, s.proposal = some p →
    s.idempotency = store.idempotency.get (deriveIdempotencyKey p)

/-- Look something up for a proposal, if there is one. -/
theorem wp_lookupFor {α : Type} {read : ActionProposal → Flow (Option α)}
    {v : ActionProposal → Option α} {S : Store}
    (h : ∀ p (st : Solo ι), st.world.store = S →
      e.Wp who (read p) (fun o st' => o = .ok (v p) ∧ st'.world.store = S) st)
    (proposal : Option ActionProposal) (hst : st.world.store = S) :
    e.Wp who (lookupFor proposal read) (fun o st' => o = .ok (proposal.bind v) ∧
      st'.world.store = S) st := by
  rcases proposal with _ | p
  · exact wp_ret ⟨rfl, hst⟩
  · exact h p st hst

theorem wp_readRecords_of (request : RecoveryRequest) {run : Run} {S : Store}
    (hrun : S.runs.get request.runId = some run) (hst : st.world.store = S) :
    e.Wp who (readRecords request run) (fun o st' => (∃ s, o = .ok s ∧ Snapshot.Of S request s) ∧
      st'.world.store = S) st := by
  have hread {o : Op} {v : o.Result} (ho : o.run S = .ok (v, S)) (st : Solo ι)
      (hst : st.world.store = S) :
      e.Wp who (Flow.op o) (fun x st' => x = .ok v ∧ st'.world.store = S) st := by
    subst hst
    exact wp_op ho ⟨rfl, rfl⟩
  unfold readRecords
  refine wp_bind (R := fun o st' => o = .ok (request.proposalId.bind S.proposals.get) ∧
    st'.world.store = S) ?_ ?_ ?_
  · unfold requestedProposal
    rcases request.proposalId with _ | id
    · exact wp_ret ⟨rfl, hst⟩
    · exact hread (o := .getProposal id) rfl st hst
  rotate_left
  · rintro x st1 ⟨hx, -⟩
    cases hx
  rintro proposal st1 ⟨hproposal, hst1⟩
  cases hproposal
  refine wp_bind (hread (o := .getCheckpoint run.runId) rfl st1 hst1) ?_ ?_
  rotate_left
  · rintro x st2 ⟨hx, -⟩
    cases hx
  rintro checkpoint st2 ⟨-, hst2⟩
  refine wp_bind (wp_lookupFor (fun p st hst => hread (o := .getApproval p.proposalId) rfl st hst)
    _ hst2) ?_ ?_
  rotate_left
  · rintro x st3 ⟨hx, -⟩
    cases hx
  rintro approval st3 ⟨-, hst3⟩
  refine wp_bind (wp_lookupFor (fun p st hst => hread
    (o := .getIdempotency (deriveIdempotencyKey p)) rfl st hst) _ hst3) ?_ ?_
  rotate_left
  · rintro x st4 ⟨hx, -⟩
    cases hx
  rintro record st4 ⟨hrecord, hst4⟩
  cases hrecord
  refine wp_bind (wp_lookupFor (fun p st hst => hread
    (o := .getVerificationEvidence run.runId p.proposalId) rfl st hst) _ hst4) ?_ ?_
  rotate_left
  · rintro x st5 ⟨hx, -⟩
    cases hx
  rintro evidence st5 ⟨-, hst5⟩
  refine wp_ret ⟨⟨_, rfl, hrun, rfl, fun p hp => ?_⟩, hst5⟩
  dsimp only at hp ⊢
  rw [hp]
  rfl

theorem wp_readSnapshot_of (request : RecoveryRequest) :
    e.Wp who (readSnapshot request) (fun o st' => (∃ found, o = .ok found ∧
      ∀ s, found = some s → Snapshot.Of st.world.store request s) ∧
      st'.world.store = st.world.store) st := by
  unfold readSnapshot
  refine wp_read (o := .getRun request.runId) rfl fun run hrun => ?_
  rcases run with _ | run
  · exact wp_ret ⟨⟨none, rfl, fun s h => by cases h⟩, rfl⟩
  refine wp_bind (wp_readRecords_of request hrun.symm rfl) ?_ ?_
  · rintro s st1 ⟨⟨s', hs, hof⟩, hst1⟩
    cases hs
    refine wp_ret ⟨⟨some s, rfl, fun s' h => ?_⟩, hst1⟩
    cases h
    exact hof
  · rintro x st1 ⟨⟨s', hs, -⟩, -⟩
    cases hs

/-- Recovery of a run whose record needs reconciliation makes no decision but to ask for review. -/
theorem recoverSnapshot_audits (cfg : RecoveryConfig) {S : Store} {request : RecoveryRequest}
    {s : Snapshot} (hs : Snapshot.Of S request s) (hvalid : validateSnapshot request s = .ok none)
    (hp : S.proposals.get p.proposalId = some p)
    (hrequest : ∀ q, request.proposalId = some q → q = p.proposalId) {run : Run}
    (hrun : S.runs.get p.runId = some run) (hstate : run.state = .recoveryRequired)
    (hrecord : StopSandboxInstanceCoordinator.Unreconciled p S) :
    (recoverSnapshot cfg s).Issues Req.audits := by
  unfold recoverSnapshot
  split
  · exact outcome_audits ..
  split
  · trivial
  rename_i proposal hproposal
  -- the proposal is `p`, and the run is the one left behind
  have hfound := hs.proposal
  rw [hproposal] at hfound
  obtain ⟨q, hq, hget⟩ := Option.bind_eq_some_iff.mp hfound.symm
  rw [hrequest q hq, hp] at hget
  cases hget
  have hid : p.runId = s.run.runId := validateSnapshot_none hvalid hproposal
  have hkey : s.run.runId = request.runId := Table.key_of_get hs.run
  have hsame : s.run = run := by
    have h := hs.run
    rw [← hkey, ← hid, hrun] at h
    exact (Option.some.inj h).symm
  obtain ⟨record, hget, hstatus⟩ := hrecord
  have hidem := hs.idempotency p hproposal
  unfold recoverProposal
  rw [hsame, hstate]
  dsimp only
  unfold recoverExecution
  split
  · exact auditedFailure_audits ..
  rw [hidem, hget]
  dsimp only
  rw [if_neg (by rw [hstatus]; decide), if_pos (by rw [hstatus]; decide)]
  exact outcome_audits ..

/-- **`recover` leaves an unreconciled run as it is.** -/
theorem wp_recover_unreconciled (e : Environment) (who : ι) (st : Solo ι) (cfg : RecoveryConfig) {request : RecoveryRequest}
    (hp : st.world.store.proposals.get p.proposalId = some p)
    (hrequest : ∀ q, request.proposalId = some q → q = p.proposalId) {run : Run}
    (hrun : st.world.store.runs.get p.runId = some run) (hstate : run.state = .recoveryRequired)
    (hrecord : StopSandboxInstanceCoordinator.Unreconciled p st.world.store) :
    e.Wp who (recover cfg request) (fun _ st' => st.world.store.SameRecords st'.world.store) st := by
  unfold recover
  refine wp_try (wp_readSnapshot_of request) ?_ ?_
  · rintro found st1 ⟨⟨found', hfound, hof⟩, hst1⟩
    cases hfound
    rw [← hst1] at hof hp hrun hrecord ⊢
    rcases found with _ | s
    · exact wp_ret (.refl _)
    have hs := hof s rfl
    refine wp_audits ?_
    dsimp only
    rcases hvalid : validateSnapshot request s with x | refused
    · trivial
    rcases refused with _ | failure
    · exact recoverSnapshot_audits cfg hs hvalid hp hrequest hrun hstate hrecord
    · exact auditedFailure_audits ..
  · rintro x st1 ⟨⟨found, hx, -⟩, -⟩
    cases hx

theorem not_closed (st : Solo ι) (cfg : RecoveryConfig) {request : RecoveryRequest}
    (hp : st.world.store.proposals.get p.proposalId = some p)
    (hrequest : ∀ q, request.proposalId = some q → q = p.proposalId) {run : Run}
    (hrun : st.world.store.runs.get p.runId = some run) (hstate : run.state = .recoveryRequired)
    (hrecord : StopSandboxInstanceCoordinator.Unreconciled p st.world.store) :
    ¬((recover cfg request).run (e.respond who) st).2.world.store.Closed p := by
  obtain ⟨-, -, hkept⟩ :=
    wp_recover_unreconciled e who st cfg hp hrequest hrun hstate hrecord
  obtain ⟨record, hget, hstatus⟩ := hrecord
  rintro ⟨-, -, r, hr, hcompleted⟩
  rw [hkept, hget] at hr
  cases hr
  rw [hstatus] at hcompleted
  cases hcompleted

end RecoveryCoordinator

/-! ## The unknown outcome is never closed -/

/-- **An unknown outcome stays unknown.**  When an execution called the executor, which failed
    without a safe acknowledgement, and left the run in `RECOVERY_REQUIRED`, then no recovery of the
    proposal closes the run: whatever the target shows, in whatever environment. -/
theorem unknown_outcome_never_closed {w w₁ : World ι}
    (hp : w.store.proposals.get p.proposalId = some p)
    (hunknown : ∀ command, command.proposalId = p.proposalId →
      ∃ x, e.acknowledge command = .error x ∧
        (StopSandboxInstanceCoordinator.executionFailure x).2 = .ambiguous)
    (hw₁ : w₁ = ((StopSandboxInstanceCoordinator.execute p.proposalId).run (e.respond who)
      ⟨w, 0⟩).2.world)
    (hcalled : callers p.runId w₁.log ≠ callers p.runId w.log) {run : Run}
    (hrun : w₁.store.runs.get p.runId = some run) (hstate : run.state = .recoveryRequired)
    (cfg : RecoveryConfig) {request : RecoveryRequest}
    (hrequest : ∀ q, request.proposalId = some q → q = p.proposalId) (e' : Environment) (who' : ι) :
    ¬((RecoveryCoordinator.recover cfg request).run (e'.respond who') ⟨w₁, 0⟩).2.world.store.Closed
      p := by
  have hleft : callers p.runId w₁.log = callers p.runId w.log ∨
      StopSandboxInstanceCoordinator.LeftUnreconciled p w₁.store := by
    rw [hw₁]
    exact StopSandboxInstanceCoordinator.wp_execute_unknown who ⟨w, 0⟩ hp hunknown
  have hevolves : w.store.Evolves w₁.store := by
    rw [hw₁]
    exact wp_evolves e who ⟨w, 0⟩ _
  have hrecord := (hleft.resolve_left hcalled) run hrun hstate
  -- the proposal may have changed its state, no more
  obtain ⟨q, hq, hpq⟩ := hevolves.proposals _ p hp
  obtain ⟨hid, hrunid, -⟩ := hpq.fields
  have hkey : deriveIdempotencyKey q = deriveIdempotencyKey p := deriveIdempotencyKey_congr hpq
  have hclosed (s : Store) : s.Closed p ↔ s.Closed q := by
    unfold Store.Closed
    rw [hkey, hid, hrunid]
  obtain ⟨record, hget, hstatus⟩ := hrecord
  rw [← hid] at hq hrequest
  rw [← hrunid] at hrun
  rw [← hkey] at hget
  rw [hclosed]
  exact RecoveryCoordinator.not_closed ⟨w₁, 0⟩ cfg hq hrequest hrun hstate
    ⟨record, hget, hstatus⟩

/-! ## The way there -/

namespace StopSandboxInstanceCoordinator

/-- Alone, an execution without a safe acknowledgement leaves the run in `RECOVERY_REQUIRED`. -/
theorem wp_execute_ambiguous (who : ι) {m : List ι} {r : Run} {c : Checkpoint} {b : Nat}
    (h : Claimable e p m st r c (b + 25))
    (hunknown : ∀ command, ∃ x, e.acknowledge command = .error x ∧
      (executionFailure x).2 = .ambiguous) :
    e.Wp who (execute p.proposalId) (fun _ st' => ∃ run record, run.state = .recoveryRequired ∧
      record.status = .reconciliationRequired ∧ record.executionAcknowledgement = none ∧
      callers p.runId st'.world.log = callers p.runId st.world.log ++ [who] ∧
      Stands e p (m ++ [who]) st' ⟨run, record, none, c⟩ b) st := by
  unfold execute
  refine wp_try (R := fun o st' => o = .ok (some p) ∧
    callers p.runId st'.world.log = callers p.runId st.world.log ∧ Claimable e p m st' r c (b + 24))
    (wp_op (congrArg (fun v => Except.ok (v, _)) h.proposal)
      ⟨rfl, callers_applied .., h.read who _ rfl⟩) ?_ ?_
  rotate_left
  · rintro y st1 ⟨hy, -⟩
    cases hy
  rintro a st1 ⟨ha, hlog1, h1⟩
  cases ha
  refine wp_try (R := fun o st' => o = .ok none ∧
    callers p.runId st'.world.log = callers p.runId st1.world.log ∧
    Claimable e p m st' r c (b + 23)) (wp_op (congrArg (fun v => Except.ok (v, _)) h1.unclaimed)
      ⟨rfl, callers_applied .., h1.read who _ rfl⟩) ?_ ?_
  rotate_left
  · rintro y st2 ⟨hy, -⟩
    cases hy
  rintro a st2 ⟨ha, hlog2, h2⟩
  cases ha
  refine wp_try ((wp_claim (b := b + 7) h2).and
    (wp_notCalling ((claim_plain ..).mono Req.nonStop_of_plain) p.runId)) ?_ ?_
  rotate_left
  · rintro y st3 ⟨⟨claimed, x, hy, -⟩, -⟩
    cases hy
  rintro claimed st3 ⟨⟨claimed', x, hclaimed, h3, hrun, hs, hreg, hnone, -, hev, hcp, -, hcmd, -,
    hkey⟩, hlog3⟩
  cases hclaimed
  obtain ⟨y, hanswer, hy⟩ := hunknown claimed.command
  unfold callExecutor
  refine wp_try (R := fun o st' => o = .error y ∧
    callers p.runId st'.world.log = callers p.runId st3.world.log ++ [who] ∧
    Stands e p (m ++ [who]) st' x (b + 6)) (wp_stop ⟨hanswer, ?_, h3.called⟩) ?_ ?_
  · rw [World.logged_log, callers_append]
    simp [callers, hcmd]
  · rintro ack st4 ⟨hack, -⟩
    cases hack
  rintro y' st4 ⟨hy', hlog4, h4⟩
  cases hy'
  have hlog : callers p.runId st4.world.log = callers p.runId st.world.log ++ [who] := by
    rw [hlog4, hlog3, hlog2, hlog1]
  -- the record is resolved first, then the run is moved
  have hstatus := completedIdempotencyStatus_ambiguous hy
  have hkind := kind_of_ambiguous hy
  simp only [Option.getD_some]
  refine ((?_ : e.Wp who _ (fun _ st' => ∃ run record, run.state = .recoveryRequired ∧
    record.status = .reconciliationRequired ∧ record.executionAcknowledgement = none ∧
    Stands e p (m ++ [who]) st' ⟨run, record, none, c⟩ b) st4).and (wp_notCalling
      ((persistExecutionFailure_plain ..).mono Req.nonStop_of_plain) p.runId)).mono ?_
  rotate_left
  · rintro o st5 ⟨⟨run, record, h5⟩, hlog5⟩
    exact ⟨run, record, h5.1, h5.2.1, h5.2.2.1, hlog5.trans hlog, h5.2.2.2⟩
  unfold persistExecutionFailure
  rw [hkey, ← hrun, hkind]
  refine wp_try (R := fun _ st' => ∃ run record, run.state = .recoveryRequired ∧
    record.status = .reconciliationRequired ∧ record.executionAcknowledgement = none ∧
    Stands e p (m ++ [who]) st' ⟨run, record, none, c⟩ b) ?_ ?_ ?_
  · refine wp_clock_bind ?_
    obtain ⟨record, s, hop, hrecord, -, hack, h5⟩ := h4.next.completed who hreg
      (executionFailureResult y) (t := e.now st4.tick)
      (h4.registered.trans le_rfl)
    refine wp_op_bind hop (wp_clock_bind ?_)
    obtain ⟨run, s', hop', hmoved, h6⟩ := h5.next.transition who .executing .recoveryRequired rfl hs
      rfl (by decide) (by decide) (by decide) h5.updated (e.now_mono (Nat.le_add_right _ 2)) none
      (fun h => by cases h)
    refine wp_op_bind hop' (wp_ret ⟨run, record, hmoved.state, hrecord.trans hstatus,
      hack.trans hnone, ?_⟩)
    rw [hev, hcp] at h6
    exact h6.mono (by omega)
  · intro _ st' h
    exact wp_ret h
  · intro z st' h
    unfold Flow.catching
    split
    · exact wp_ret h
    · exact wp_raise h

end StopSandboxInstanceCoordinator

end Unknown

/-! ## The sample run -/

namespace Sample

attribute [local instance] Sha256.standard

/-- An executor that cannot tell what became of the request. -/
def cannotTell (_ : StopExecutionCommand) : Except PyExc ExecutionAcknowledgement :=
  .error .remediationAmbiguous

theorem cannotTell_ambiguous (command : StopExecutionCommand) :
    ∃ x, (environment 10 cannotTell).acknowledge command = .error x ∧
      (StopSandboxInstanceCoordinator.executionFailure x).2 = .ambiguous :=
  ⟨_, rfl, rfl⟩

/-- What the unacknowledged execution by client 10 leaves of the sample run. -/
theorem unacknowledged : ∃ w k run record checkpoint,
    w = ((StopSandboxInstanceCoordinator.execute proposal.proposalId).run
      ((environment 10 cannotTell).respond 10) ⟨start.world, 0⟩).2.world ∧
    run.state = .recoveryRequired ∧ record.status = .reconciliationRequired ∧
    record.executionAcknowledgement = none ∧ callers proposal.runId w.log ≠
      callers proposal.runId start.world.log ∧ (∀ t, checkpoint.Free proposal t) ∧
    Stands ((environment 10 cannotTell).after k) proposal [10] ⟨w, 0⟩
      ⟨run, record, none, checkpoint⟩ 65 := by
  obtain ⟨r, checkpoint, hclaim, hproposal, hlease⟩ := claimable cannotTell
  obtain ⟨run, record, hstate, hstatus, hack, hlog, h⟩ :=
    StopSandboxInstanceCoordinator.wp_execute_ambiguous 10 (b := 65) hclaim
      cannotTell_ambiguous
  refine ⟨_, _, run, record, checkpoint, rfl, hstate, hstatus, hack, ?_, free hproposal hlease,
    h.after⟩
  rw [hlog]
  simp

/-- **Unknown and never closed**: the executor of the sample run cannot tell, the target is stopped
    in every read-back, and recovery does not close the run. -/
theorem unknown_outcome_stuck : ∃ (w : World Nat) (run : Run) (record : IdempotencyRecord)
    (checkpoint : Checkpoint) (e : Environment),
    w = ((StopSandboxInstanceCoordinator.execute proposal.proposalId).run
      ((environment 10 cannotTell).respond 10) ⟨start.world, 0⟩).2.world ∧
    w.store.runs.get proposal.runId = some run ∧ run.state = .recoveryRequired ∧
    w.store.idempotency.get (deriveIdempotencyKey proposal) = some record ∧
    record.executionAcknowledgement = none ∧
    w.store.checkpoints.get proposal.runId = some checkpoint ∧ e.Stopped ∧
    e.Ready proposal w.store 38 ∧ recovery.Covers proposal ∧ checkpoint.Free proposal (e.now 0) ∧
    ¬((RecoveryCoordinator.recover recovery.config ⟨proposal.runId, some proposal.proposalId⟩).run
      (e.respond 12) ⟨w, 0⟩).2.world.store.Closed proposal := by
  obtain ⟨w, k, run, record, checkpoint, hw, hstate, hstatus, hack, -, hfree, h⟩ := unacknowledged
  refine ⟨w, run, record, checkpoint, _, hw, h.run, hstate, h.record, hack, h.checkpoint,
    fun n => ⟨_, rfl⟩, (h.mono (by decide)).ready, covers, hfree _, ?_⟩
  refine RecoveryCoordinator.not_closed ⟨w, 0⟩ _ h.proposal (fun q hq => ?_) h.run hstate
    ⟨record, h.record, hstatus⟩
  exact (Option.some.inj hq).symm

/-- The sample run is left in `RECOVERY_REQUIRED` and never closed. -/
theorem unknown_outcome_sample : ∃ w : World Nat,
    ¬((RecoveryCoordinator.recover recovery.config ⟨proposal.runId, some proposal.proposalId⟩).run
      ((environment 90 cannotTell).respond 12) ⟨w, 0⟩).2.world.store.Closed proposal := by
  obtain ⟨w, k, run, record, checkpoint, hw, hstate, -, -, hcalled, -, h⟩ := unacknowledged
  obtain ⟨r, c, hclaim, -⟩ := claimable cannotTell
  exact ⟨w, unknown_outcome_never_closed hclaim.proposal
    (fun command _ => cannotTell_ambiguous command) hw hcalled h.run hstate _
    (fun q hq => (Option.some.inj hq).symm) (environment 90 cannotTell) 12⟩

end Sample

end CloudOpsAgent
