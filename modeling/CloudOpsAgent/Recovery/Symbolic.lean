/-
  One stop run, executed symbolically.

  Everything recovery looks at of a run is five records: the run, its idempotency record, its
  evidence, its checkpoint (a `Picture`), and the approved proposal, which never changes.
  `Stands e p m st x b` says that the repository shows picture `x` and that the environment has
  fresh identifiers, a late enough clock and audit room for `b` more requests.

  1. **Operations** — for each operation the flows make, that it succeeds on a picture it fits and
     which picture it leaves.

  2. **Flows** — for each flow, from which picture it runs to which: an audit event leaves the
     picture alone, a transition moves its run, `markRecoveryRequired` moves an active run, and so on.
-/
import CloudOpsAgent.Safety.AtMostOnce

namespace CloudOpsAgent

open ClientProg ClientProg.Prog Environment

variable [Sha256] {ι : Type}

/-! ## Pictures -/

/-- The records of a stop run that change. -/
structure Picture [Sha256] where
  run : Run
  record : IdempotencyRecord
  evidence : Option VerificationEvidence
  checkpoint : Checkpoint

/-- The repository holds the records of the picture, the proposal and a positive decision on it; and
    `moved` has moved the run into `EXECUTING`. -/
structure Shows (p : ActionProposal) (moved : List ι) (w : World ι) (x : Picture) : Prop where
  proposal : w.store.proposals.get p.proposalId = some p
  approval : ∃ a, w.store.approvals.get p.proposalId = some a ∧ a.decision = .approved ∧ a.Binds p
  run : w.store.runs.get p.runId = some x.run
  record : w.store.idempotency.get (deriveIdempotencyKey p) = some x.record
  evidence : w.store.verificationEvidence.get (p.runId, p.proposalId) = x.evidence
  checkpoint : w.store.checkpoints.get p.runId = some x.checkpoint
  movers : movers p.runId w.log = moved

/-- No audit event and no evidence of the run has the identifier. -/
structure Unused (s : Store) (r u : UUID) : Prop where
  event : s.auditEvents.get (r, u) = none
  evidence : ∀ pid v, s.verificationEvidence.get (r, pid) = some v → v.evidenceId ≠ u

/-- The picture, and what the environment still has to offer. -/
structure Stands (e : Environment) (p : ActionProposal) (moved : List ι) (st : Solo ι) (x : Picture)
    (b : Nat) : Prop extends Shows p moved st.world x where
  fresh : ∀ n, st.tick ≤ n → n < st.tick + b → Unused st.world.store p.runId (e.ids n)
  distinct : ∀ m n, st.tick ≤ m → m < n → n < st.tick + b → e.ids m ≠ e.ids n
  room : st.world.store.countAuditEvents p.runId + b ≤ MAX_AUDIT_EVENTS_PER_RUN
  updated : x.run.updatedAt ≤ e.now st.tick
  registered : x.record.registeredAt ≤ e.now st.tick
  range : e.now (st.tick + b) + seconds 300 ≤ Time.datetimeMax

/-- An identifier that was drawn and not used yet: none to come is the same. -/
structure Drawn (e : Environment) (p : ActionProposal) (st : Solo ι) (b : Nat) (u : UUID) : Prop where
  unused : Unused st.world.store p.runId u
  apart : ∀ n, st.tick ≤ n → n < st.tick + b → e.ids n ≠ u

namespace Stands

variable {e : Environment} {p : ActionProposal} {m : List ι} {st : Solo ι} {x : Picture} {b : Nat}
  {who : ι}

theorem run_id (h : Stands e p m st x b) : x.run.runId = p.runId := Table.key_of_get h.run

theorem record_key (h : Stands e p m st x b) :
    x.record.idempotencyKey = deriveIdempotencyKey p := Table.key_of_get h.record

theorem mono {c : Nat} (h : Stands e p m st x b) (hc : c ≤ b) : Stands e p m st x c where
  toShows := h.toShows
  fresh n h1 h2 := h.fresh n h1 (by omega)
  distinct k n h1 h2 h3 := h.distinct k n h1 h2 (by omega)
  room := (Nat.add_le_add_left hc _).trans h.room
  updated := h.updated
  registered := h.registered
  range := (Nat.add_le_add_right (e.now_mono (Nat.add_le_add_left hc _)) _).trans h.range

/-- A request that leaves the world alone. -/
theorem next (h : Stands e p m st x (b + 1)) : Stands e p m st.next x b where
  toShows := h.toShows
  fresh n h1 h2 := h.fresh n (by simp at h1; omega) (by simp at h2; omega)
  distinct k n h1 h2 h3 := h.distinct k n (by simp at h1; omega) h2 (by simp at h3; omega)
  room := (Nat.le_succ _).trans h.room
  updated := h.updated.trans (e.now_mono (Nat.le_succ _))
  registered := h.registered.trans (e.now_mono (Nat.le_succ _))
  range := by
    rw [Solo.next_tick, Nat.succ_add_eq_add_succ]
    exact h.range

/-- The identifier a request for one is answered with. -/
theorem drawn (h : Stands e p m st x (b + 1)) : Drawn e p st.next b (e.ids st.tick) where
  unused := h.fresh _ le_rfl (by omega)
  apart n h1 h2 := (h.distinct st.tick n le_rfl (by simp at h1; omega) (by simp at h2; omega)).symm

end Stands

theorem Drawn.next {e : Environment} {p : ActionProposal} {st : Solo ι} {b : Nat} {u : UUID}
    (h : Drawn e p st (b + 1) u) : Drawn e p st.next b u where
  unused := h.unused
  apart n h1 h2 := h.apart n (by simp at h1; omega) (by simp at h2; omega)

/-- The environment a call finds that starts after `k` requests. -/
def Environment.after (e : Environment) (k : Nat) : Environment where
  now n := e.now (k + n)
  now_mono _ _ h := e.now_mono (Nat.add_le_add_left h k)
  ids n := e.ids (k + n)
  inspections n := e.inspections (k + n)
  acknowledge := e.acknowledge

/-- A later call finds the picture the earlier one left. -/
theorem Stands.after {e : Environment} {p : ActionProposal} {m : List ι} {st : Solo ι} {x : Picture}
    {b : Nat} (h : Stands e p m st x b) : Stands (e.after st.tick) p m ⟨st.world, 0⟩ x b where
  toShows := h.toShows
  fresh n _ hn := h.fresh _ (Nat.le_add_right _ _) (by simp at hn; omega)
  distinct k n _ hk hn := h.distinct _ _ (Nat.le_add_right _ _) (by omega) (by simp at hn; omega)
  room := h.room
  updated := h.updated
  registered := h.registered
  range := by
    rw [Nat.zero_add]
    exact h.range

/-! ## Operations -/

/-- The next version of a run, in a new state. -/
structure Run.MovedTo (run : Run) (next : WorkflowState) (t : Time) (run' : Run) : Prop where
  state : run'.state = next
  updatedAt : run'.updatedAt = t
  runId : run'.runId = run.runId
  traceId : run'.traceId = run.traceId
  correlationId : run'.correlationId = run.correlationId

namespace Stands

variable {e : Environment} {p : ActionProposal} {m : List ι} {st : Solo ι} {x : Picture} {b : Nat}
  {who : ι}

/-- An operation that does not enter `EXECUTING` leaves the picture it has written. -/
theorem applied (h : Stands e p m st x (b + 1)) {op : Op} (hop : op.entersExecuting = none)
    {s : Store} {x' : Picture} (hproposals : s.proposals = st.world.store.proposals)
    (happrovals : s.approvals = st.world.store.approvals) (hrun : s.runs.get p.runId = some x'.run)
    (hrecord : s.idempotency.get (deriveIdempotencyKey p) = some x'.record)
    (hevidence : s.verificationEvidence.get (p.runId, p.proposalId) = x'.evidence)
    (hcheckpoint : s.checkpoints.get p.runId = some x'.checkpoint)
    (hfresh : ∀ n, st.tick + 1 ≤ n → n < st.tick + 1 + b →
      Unused st.world.store p.runId (e.ids n) → Unused s p.runId (e.ids n))
    (hroom : s.countAuditEvents p.runId ≤ st.world.store.countAuditEvents p.runId + 1)
    (hupdated : x'.run.updatedAt ≤ e.now (st.tick + 1))
    (hregistered : x'.record.registeredAt = x.record.registeredAt) :
    Stands e p m (st.applied who op s) x' b where
  proposal := by
    rw [Solo.applied_world, World.applied_store, hproposals]
    exact h.proposal
  approval := by
    rw [Solo.applied_world, World.applied_store, happrovals]
    exact h.approval
  run := hrun
  record := hrecord
  evidence := hevidence
  checkpoint := hcheckpoint
  movers := by
    rw [Solo.applied_world, movers_applied, hop, if_neg (fun h => by cases h), List.append_nil]
    exact h.movers
  fresh n h1 h2 := hfresh n h1 h2 (h.fresh n (by simp at h1; omega) (by simp at h2; omega))
  distinct k n h1 h2 h3 := h.distinct k n (by simp at h1; omega) h2 (by simp at h3; omega)
  room := by
    have := h.room
    simp only [Solo.applied_world, World.applied_store]
    omega
  updated := hupdated
  registered := by
    rw [hregistered]
    exact h.registered.trans (e.now_mono (Nat.le_succ _))
  range := h.next.range

/-- A read. -/
theorem read (who : ι) (h : Stands e p m st x (b + 1)) (op : Op) (hop : op.entersExecuting = none) :
    Stands e p m (st.applied who op st.world.store) x b :=
  h.applied hop rfl rfl h.run h.record h.evidence h.checkpoint (fun _ _ _ h => h) (Nat.le_succ _)
    (h.updated.trans (e.now_mono (Nat.le_succ _))) rfl

theorem getRun (h : Stands e p m st x b) :
    (Op.getRun p.runId).run st.world.store = .ok (some x.run, st.world.store) := by
  rw [← h.run]
  rfl

theorem getProposal (h : Stands e p m st x b) :
    (Op.getProposal p.proposalId).run st.world.store = .ok (some p, st.world.store) :=
  congrArg (fun v => Except.ok (v, st.world.store)) h.proposal

theorem getIdempotency (h : Stands e p m st x b) :
    (Op.getIdempotency (deriveIdempotencyKey p)).run st.world.store =
      .ok (some x.record, st.world.store) := by
  rw [← h.record]
  rfl

theorem getCheckpoint (h : Stands e p m st x b) :
    (Op.getCheckpoint p.runId).run st.world.store = .ok (some x.checkpoint, st.world.store) := by
  rw [← h.checkpoint]
  rfl

theorem getVerificationEvidence (h : Stands e p m st x b) :
    (Op.getVerificationEvidence p.runId p.proposalId).run st.world.store =
      .ok (x.evidence, st.world.store) := by
  rw [← h.evidence]
  rfl

/-- An EC2 read-back. -/
theorem inspected (h : Stands e p m st x (b + 1)) {id : String} {identity : InvestigationIdentity}
    {answer : ControlResult InstanceInspection} :
    Stands e p m ⟨st.world.logged (.inspected who id identity answer), st.tick + 1⟩ x b where
  proposal := h.proposal
  approval := h.approval
  run := h.run
  record := h.record
  evidence := h.evidence
  checkpoint := h.checkpoint
  movers := by
    rw [World.logged_log, movers_append]
    simpa [CloudOpsAgent.movers] using h.movers
  fresh := h.next.fresh
  distinct := h.next.distinct
  room := h.next.room
  updated := h.next.updated
  registered := h.next.registered
  range := h.next.range

/-- The success check, for a completed record that carries the stored evidence. -/
theorem successCheck (h : Stands e p m st x b) {next : WorkflowState} {verificationId : Option UUID}
    (hsuccess : next = .successWithEvidence → verificationId = some p.proposalId ∧
      ∃ v, x.evidence = some v ∧ x.record.status = .completed ∧
        x.record.actionResult.any fun result => result.evidenceHash == some v.evidenceHash) :
    st.world.store.successCheck p.runId next verificationId = .ok () := by
  unfold Store.successCheck
  split
  · rename_i hsucc
    obtain ⟨rfl, v, hv, hc, hr⟩ := hsuccess hsucc
    have hkey := Table.key_of_get (h.evidence.trans hv)
    simp only [Prod.mk.injEq] at hkey
    have hlegacy : st.world.store.legacyProofValid p.runId p.proposalId = true := by
      simp only [Store.legacyProofValid, h.proposal, h.evidence, hv, h.record, hkey.1, hc, hr,
        beq_self_eq_true, Bool.and_self]
    simp only [hlegacy, Bool.true_or, if_true]
  · rfl

/-- An allowed transition, out of the states of an active run. -/
theorem transition (who : ι) (h : Stands e p m st x (b + 1)) (state next : WorkflowState)
    {r : UUID} {v : Nat}
    (hr : r = x.run.runId) (hs : x.run.state = state) (hv : v = x.run.version)
    (hn : next ∈ ALLOWED_WORKFLOW_TRANSITIONS state) (hexec : next ≠ .executing)
    (hdecision : ¬(next = .approved ∨ next = .deniedByHuman)) {t : Time} (ht : x.run.updatedAt ≤ t)
    (ht' : t ≤ e.now (st.tick + 1)) (verificationId : Option UUID)
    (hsuccess : next = .successWithEvidence → verificationId = some p.proposalId ∧
      ∃ v, x.evidence = some v ∧ x.record.status = .completed ∧
        x.record.actionResult.any fun result => result.evidenceHash == some v.evidenceHash) :
    ∃ run s, (Op.transitionRun r next state v t none verificationId).run st.world.store =
        .ok (run, s) ∧ x.run.MovedTo next t run ∧
      Stands e p m (st.applied who (.transitionRun r next state v t none verificationId) s)
        { x with run := run } b := by
  subst hr hs hv
  obtain ⟨run, hrun⟩ : ∃ run, transitionRun x.run next t = .ok run := by
    simp [transitionRun, validateWorkflowTransition, hn, ht]
  obtain ⟨-, -, h1, -, h2, h3, h4, h5, -⟩ := transitionRun_ok hrun
  refine ⟨run, { st.world.store with runs := st.world.store.runs.put run }, ?_,
    ⟨h1, h2, h3, h4, h5⟩, h.applied ?_ rfl rfl ?_ h.record h.evidence h.checkpoint
    (fun _ _ _ hu => ⟨hu.event, hu.evidence⟩) (Nat.le_succ _) (h2.le.trans ht') rfl⟩
  · rw [h.run_id]
    simp only [Op.run, Store.transitionRun, h.run, Option.elim_some, bind, Except.bind,
      Store.decisionCheck, hdecision, if_false, hrun, h.successCheck hsuccess, not_true, or_self,
      ne_eq]
    rfl
  · cases next with
    | executing => exact absurd rfl hexec
    | _ => rfl
  · rw [← h.run_id, ← h3]
    exact Table.get_put_self _ _

/-- The idempotency record of an unresolved action is completed. -/
theorem completed (who : ι) (h : Stands e p m st x (b + 1))
    (hreg : x.record.status = .registered) (result : ActionResult) {t : Time} (ht : x.record.registeredAt ≤ t) :
    ∃ r s, (Op.completeIdempotency (deriveIdempotencyKey p) result t .registered).run
        st.world.store = .ok (r, s) ∧ r.status = completedIdempotencyStatus result ∧
      r.actionResult = some result ∧
      r.executionAcknowledgement = x.record.executionAcknowledgement ∧
      Stands e p m (st.applied who (.completeIdempotency (deriveIdempotencyKey p) result t
        .registered) s) { x with record := r } b := by
  obtain ⟨r, hr, h1, h2, ha, h3, h4⟩ : ∃ r, x.record.complete result t = .ok r ∧
      r.status = completedIdempotencyStatus result ∧ r.actionResult = some result ∧
      r.executionAcknowledgement = x.record.executionAcknowledgement ∧
      r.idempotencyKey = x.record.idempotencyKey ∧ r.registeredAt = x.record.registeredAt := by
    simp only [IdempotencyRecord.complete, ht, dif_pos]
    exact ⟨_, rfl, rfl, rfl, rfl, rfl, rfl⟩
  refine ⟨r, { st.world.store with idempotency := st.world.store.idempotency.put r }, ?_, h1, h2,
    ha, h.applied rfl rfl rfl h.run ?_ h.evidence h.checkpoint
    (fun _ _ _ hu => ⟨hu.event, hu.evidence⟩) (Nat.le_succ _)
    (h.updated.trans (e.now_mono (Nat.le_succ _))) h4⟩
  · simp only [Op.run, Store.completeIdempotency, h.record, hreg, not_true, if_false, ne_eq, bind,
      Except.bind, hr]
    rfl
  · rw [← h.record_key, ← h3]
    exact Table.get_put_self _ _

/-- An audit event of the run under a fresh identifier. -/
theorem audited (who : ι) (h : Stands e p m st x (b + 1)) {event : AuditEvent}
    (hrun : event.runId = p.runId) (hd : Drawn e p st (b + 1) event.eventId) :
    ∃ s, (Op.appendAuditEvent event).run st.world.store = .ok (event, s) ∧
      Stands e p m (st.applied who (.appendAuditEvent event) s) x b := by
  have hnone : st.world.store.auditEvents.get (event.runId, event.eventId) = none := by
    rw [hrun]
    exact hd.unused.event
  refine ⟨{ st.world.store with auditEvents := st.world.store.auditEvents.put event }, ?_,
    h.applied rfl rfl rfl h.run h.record h.evidence h.checkpoint (fun n h1 h2 hu => ⟨?_, hu.evidence⟩)
    ?_ (h.updated.trans (e.now_mono (Nat.le_succ _))) rfl⟩
  · have hroom := h.room
    have hlt : ¬MAX_AUDIT_EVENTS_PER_RUN ≤ st.world.store.countAuditEvents event.runId := by
      rw [hrun]
      omega
    simp only [Op.run, Store.appendAuditEvent, hnone, Option.isSome_none, Bool.false_eq_true,
      if_false, hlt]
    rfl
  · rw [Table.get_put_of_ne]
    · exact hu.event
    · intro hkey
      simp only [Prod.mk.injEq] at hkey
      exact hd.apart n (by omega) (by omega) hkey.2
  · simp only [Store.countAuditEvents]
    rw [Table.countKeys_put_of_none hnone]
    split <;> omega

/-- Evidence that matches the picture, under a fresh identifier. -/
theorem evidenced (who : ι) (h : Stands e p m st x (b + 1)) (hnone : x.evidence = none)
    {v : VerificationEvidence} (h1 : v.proposalId = p.proposalId) (h2 : v.runId = p.runId)
    (hd : Drawn e p st (b + 1) v.evidenceId) (hmatch : st.world.store.evidenceMatches v) :
    ∃ s, (Op.createVerificationEvidence v).run st.world.store = .ok (v, s) ∧
      Stands e p m (st.applied who (.createVerificationEvidence v) s) { x with evidence := some v }
        b := by
  have hget : st.world.store.verificationEvidence.get (v.runId, v.proposalId) = none := by
    rw [h1, h2, h.evidence, hnone]
  refine ⟨{ st.world.store with
      verificationEvidence := st.world.store.verificationEvidence.put v }, ?_,
    h.applied rfl rfl rfl h.run h.record ?_ h.checkpoint (fun n hn hn' hu => ⟨hu.event, ?_⟩)
    (Nat.le_succ _) (h.updated.trans (e.now_mono (Nat.le_succ _))) rfl⟩
  · simp only [Op.run, Store.createVerificationEvidence, hget, hmatch, Bool.not_true,
      Bool.false_eq_true, if_false]
    rfl
  · rw [← h1, ← h2]
    exact Table.get_put_self _ _
  · intro pid y hy
    obtain ⟨-, rfl⟩ | ⟨-, hy⟩ := Table.get_put_cases hy
    · exact fun heq => hd.apart n (by omega) (by omega) heq.symm
    · exact hu.evidence pid y hy

/-- Other evidence than the stored one is refused. -/
theorem evidence_refused (h : Stands e p m st x b) {v w : VerificationEvidence}
    (hv : x.evidence = some v) (h1 : w.proposalId = p.proposalId) (h2 : w.runId = p.runId)
    (hd : Drawn e p st b w.evidenceId) :
    (Op.createVerificationEvidence w).run st.world.store =
      .error (.storageConflict "conflicting verification evidence already exists") := by
  have hget := h.evidence.trans hv
  have hne : v ≠ w := fun heq => hd.unused.evidence _ v hget (by rw [heq])
  simp only [Op.run, Store.createVerificationEvidence, h1, h2, hget, hne, if_false]
  rfl

/-- The next version of the stored checkpoint. -/
theorem saved (who : ι) (h : Stands e p m st x (b + 1)) {c : Checkpoint}
    (hid : c.runId = x.checkpoint.runId) (hv : c.version = x.checkpoint.version + 1) :
    ∃ s, (Op.saveCheckpoint c (some x.checkpoint.version)).run st.world.store = .ok (c, s) ∧
      Stands e p m (st.applied who (.saveCheckpoint c (some x.checkpoint.version)) s)
        { x with checkpoint := c } b := by
  have hkey := Table.key_of_get h.checkpoint
  change x.checkpoint.runId = p.runId at hkey
  have hrun : c.runId = p.runId := hid.trans hkey
  refine ⟨{ st.world.store with checkpoints := st.world.store.checkpoints.put c }, ?_,
    h.applied rfl rfl rfl h.run h.record h.evidence ?_
    (fun _ _ _ hu => ⟨hu.event, hu.evidence⟩) (Nat.le_succ _)
    (h.updated.trans (e.now_mono (Nat.le_succ _))) rfl⟩
  · simp only [Op.run, Store.saveCheckpoint, hrun, h.checkpoint, hv, ne_eq, not_true, or_self,
      if_false]
    rfl
  · rw [← hrun]
    exact Table.get_put_self _ _

/-- A struck operation leaves the picture before it or the picture after it. -/
theorem struck (h : Stands e p m st x (b + 1)) {st' : Solo ι} {x' : Picture}
    (h' : Stands e p m st' x' b) (fault : Fault) :
    Stands e p m (fault.struck st st') (if fault.mode.takesEffect then x' else x) b := by
  unfold Fault.struck
  cases fault.mode with
  | raisesBefore => exact h.next
  | crashesBefore => exact h.mono (Nat.le_succ _)
  | raisesAfter | crashesAfter => exact h'

end Stands

/-! ## Audit -/

section Flows

variable {e : Environment} {p : ActionProposal} {m : List ι} {st : Solo ι} {x : Picture} {b n : Nat}
  {who : ι} {fault : Fault}

/-- A read leaves the picture alone. -/
theorem wp_read_bind {β : Type} {Q : Except PyExc β → Solo ι → Prop} {o : Op}
    {f : o.Result → Flow β} {v : o.Result} (h : Stands e p m st x (b + 1))
    (hop : o.entersExecuting = none) (ho : o.run st.world.store = .ok (v, st.world.store))
    (hf : ∀ st', Stands e p m st' x b → e.Wp who (f v) Q st') :
    e.Wp who (Flow.op o >>= f) Q st := wp_op_bind ho (hf _ (h.read _ _ hop))

/-- An audit event leaves the picture alone. -/
theorem wp_audit_bind {β : Type} {Q : Except PyExc β → Solo ι → Prop} {event : AuditEvent}
    {f : AuditEvent → Flow β} (h : Stands e p m st x (b + 1)) (hrun : event.runId = p.runId)
    (hd : Drawn e p st (b + 1) event.eventId)
    (hf : ∀ st', Stands e p m st' x b → e.Wp who (f event) Q st') :
    e.Wp who (Flow.op (.appendAuditEvent event) >>= f) Q st := by
  obtain ⟨s, hs, h'⟩ := h.audited who hrun hd
  exact wp_op_bind hs (hf _ h')

/-- The same, with a fault. -/
theorem fwp_audit_bind {β : Type} {Q : FaultRun ι β → Prop} {event : AuditEvent}
    {f : AuditEvent → Flow β} (h : Stands e p m st x (b + 1)) (hrun : event.runId = p.runId)
    (hd : Drawn e p st (b + 1) event.eventId)
    (hstruck : n = 0 → ∀ st', Stands e p m st' x b → Q ⟨fault.outcome, none, st'⟩)
    (hlater : ∀ k st', n = k + 1 → Stands e p m st' x b → e.FWp who fault (f event) (some k) Q st') :
    e.FWp who fault (Flow.op (.appendAuditEvent event) >>= f) (some n) Q st := by
  obtain ⟨s, hs, h'⟩ := h.audited who hrun hd
  refine fwp_op_bind hs (fun h0 => hstruck h0 _ ?_) fun k hk => hlater k _ hk h'
  have := h.struck h' fault
  rwa [ite_self] at this

/-- Draw an identifier, read the clock, and append an audit event. -/
theorem fwp_audit (h : Stands e p m st x (b + 3)) {event : UUID → Time → AuditEvent}
    (hrun : ∀ u t, (event u t).runId = p.runId) (hid : ∀ u t, (event u t).eventId = u) :
    e.FWp who fault (do
      let u ← Flow.freshId
      let t ← Flow.clock
      let _ ← Flow.op (.appendAuditEvent (event u t))
      return) (some n) (fun o => Struck fault 1 n o ∧ Stands e p m o.final x b) st := by
  have hd : Drawn e p st.next.next (b + 1) (e.ids st.tick) := h.drawn.next
  refine fwp_freshId_bind (fwp_clock_bind (fwp_audit_bind h.next.next (hrun _ _)
    ((hid _ _).symm ▸ hd) (fun hn st' h' => ?_) fun k st' hk h' => ?_))
  · exact ⟨⟨fun _ => ⟨rfl, rfl⟩, fun k hk => by omega⟩, h'⟩
  · exact fwp_ret ⟨⟨fun h0 => by omega, fun j hj => ⟨congrArg some (by omega), _, rfl⟩⟩, h'⟩

/-- The fault-free case of an audited step. -/
theorem wp_of_audited {q : Flow Unit}
    (h : e.FWp who .late q (some 1)
      (fun o => Struck .late 1 1 o ∧
        Stands e p m o.final x b) st) :
    e.Wp who q (fun o st' => o = .ok () ∧ Stands e p m st' x b) st := by
  refine wp_of_fwp .late 1 ?_
  obtain ⟨⟨-, h2⟩, h1⟩ := h
  obtain ⟨hl, a, ho⟩ := h2 0 rfl
  refine ⟨by rw [hl]; rfl, fun o ho' => ⟨?_, h1⟩⟩
  rw [ho] at ho'
  exact (Option.some.inj ho').symm

namespace RecoveryCoordinator

theorem fwp_appendEvent (h : Stands e p m st x (b + 3)) {run : Run} (hr : run.runId = p.runId)
    {proposal : Option ActionProposal} {type : AuditEventType} {code : String}
    {hash : Sha256Digest} :
    e.FWp who fault (appendEvent run proposal type code hash) (some n)
      (fun o => Struck fault 1 n o ∧ Stands e p m o.final x b) st :=
  fwp_audit h (fun _ _ => hr) fun _ _ => rfl

theorem wp_appendEvent (h : Stands e p m st x (b + 3)) {run : Run} (hr : run.runId = p.runId)
    {proposal : Option ActionProposal} {type : AuditEventType} {code : String}
    {hash : Sha256Digest} : e.Wp who (appendEvent run proposal type code hash)
      (fun o st' => o = .ok () ∧ Stands e p m st' x b) st := wp_of_audited (fwp_appendEvent h hr)

theorem wp_outcome (h : Stands e p m st x (b + 3)) {run : Run} (hr : run.runId = p.runId)
    {proposal : Option ActionProposal} {verdict : RecoveryVerdict} {type : AuditEventType} :
    e.Wp who (outcome run proposal verdict type) (fun _ st' => Stands e p m st' x b) st := by
  unfold outcome
  have hd : Drawn e p st.next.next (b + 1) (e.ids st.tick) := h.drawn.next
  refine wp_freshId_bind (wp_try (R := fun o st' => o = .ok () ∧ Stands e p m st' x b) ?_ ?_ ?_)
  · exact wp_clock_bind (wp_audit_bind h.next.next hr hd fun st' h' => ⟨rfl, h'⟩)
  · rintro - st' ⟨-, h'⟩
    split
    · exact h'
    · exact h'
  · rintro y st' ⟨hy, -⟩
    cases hy

theorem wp_auditedFailure (h : Stands e p m st x (b + 3)) {run : Run} (hr : run.runId = p.runId)
    {proposal : Option ActionProposal} {failure : FailureDetail} {type : AuditEventType} :
    e.Wp who (auditedFailure run proposal failure type) (fun _ st' => Stands e p m st' x b) st := by
  unfold auditedFailure
  refine wp_try (wp_appendEvent h hr) (fun _ st' h' => h'.2) ?_
  rintro y st' ⟨hy, -⟩
  cases hy

end RecoveryCoordinator

theorem BoundedVerificationCoordinator.fwp_appendEvent (h : Stands e p m st x (b + 3)) {run : Run}
    (hr : run.runId = p.runId) {type : AuditEventType} {hash : Sha256Digest}
    {metadata : Dict String String} : e.FWp who fault (appendEvent run type hash metadata) (some n)
      (fun o => Struck fault 1 n o ∧ Stands e p m o.final x b) st :=
  fwp_audit h (fun _ _ => hr) fun _ _ => rfl

theorem BoundedVerificationCoordinator.wp_appendEvent (h : Stands e p m st x (b + 3)) {run : Run}
    (hr : run.runId = p.runId) {type : AuditEventType} {hash : Sha256Digest}
    {metadata : Dict String String} : e.Wp who (appendEvent run type hash metadata)
      (fun o st' => o = .ok () ∧ Stands e p m st' x b) st := wp_of_audited (fwp_appendEvent h hr)

end Flows

end CloudOpsAgent
