/-
  What conditional writes do to the records of a shared table.

  A client reads records one by one and writes one record at the end, on a condition.  By then the
  table may have moved on, so what it has read is only known to have been there once (`seen`).

  1. **Writes** — `Creates` and `Replaces` say what a call may write, in terms of the records it has seen
     and of the one it replaces; `Landed` is one write.

  2. **Histories** — `WriteHistory calls log`: the stores that one write after the other has left, each by a
     different call.

  3. **Order** — every store of a history has moved to the current one (`Store.Moves`): runs, proposals and
     checkpoints by their own rules, approvals, evidence and events not at all, registrations keep
     their owner.

  4. **Grounds** — what is stored never outlives its reasons: a decision, a registration, a proof and the
     states of a run stand on records that are there (`Grounded`).
-/
import CloudOpsAgent.Persistence.DynamoRecords
import CloudOpsAgent.Safety.AtMostOnce

namespace CloudOpsAgent

variable [Sha256]

/-! ## Writes -/

/-- The human decision that a decision state asks for has been seen. -/
def DecisionSeen (seen : Durable → Prop) (runId : UUID) (next : WorkflowState)
    (approvalId : Option UUID) : Prop :=
  next = .approved ∨ next = .deniedByHuman → ∃ (p : ActionProposal) (a : Approval),
    approvalId = some p.proposalId ∧ seen ⟨.actionProposal, p⟩ ∧ p.runId = runId ∧
      p.state = .awaitingApproval ∧ seen ⟨.approval, a⟩ ∧ a.proposalId = p.proposalId ∧
      a.decision = if next = .approved then .approved else .denied

/-- The proof that `SUCCESS_WITH_EVIDENCE` asks for has been seen. -/
def ProofSeen (seen : Durable → Prop) (runId : UUID) (next : WorkflowState)
    (verificationId : Option UUID) : Prop :=
  next = .successWithEvidence → ∃ (p : ActionProposal) (e : VerificationEvidence)
    (r : IdempotencyRecord), verificationId = some p.proposalId ∧ seen ⟨.actionProposal, p⟩ ∧
      seen ⟨.verificationEvidence, e⟩ ∧ e.runId = runId ∧ e.proposalId = p.proposalId ∧
      seen ⟨.idempotencyRecord, r⟩ ∧ r.idempotencyKey = deriveIdempotencyKey p ∧
      DynamoRepository.proofComplete runId e r

/-- What a call may write where nothing was. -/
inductive Creates (seen : Durable → Prop) : Op → Durable → Prop
  | createRun {run : Run} (hv : run.version = 1) (hs : run.state = .received) :
    Creates seen (.createRun run) ⟨.run, run⟩
  | createProposal {p : ActionProposal} (hs : p.state = .proposed) :
    Creates seen (.createProposal p) ⟨.actionProposal, p⟩
  | createApproval {a : Approval} {p : ActionProposal} (hp : seen ⟨.actionProposal, p⟩)
    (hs : p.state = .awaitingApproval) (hb : a.Binds p) :
    Creates seen (.createApproval a) ⟨.approval, a⟩
  | registerIdempotency {r : IdempotencyRecord} {p : ActionProposal} {a : Approval} {run : Run}
    (hp : seen ⟨.actionProposal, p⟩) (hpid : p.proposalId = r.proposalId)
    (hs : p.state = .awaitingApproval) (hf : r.actionFingerprint = deriveActionFingerprint p)
    (hk : r.idempotencyKey = deriveIdempotencyKey p) (ha : seen ⟨.approval, a⟩)
    (haid : a.proposalId = r.proposalId) (had : a.decision = .approved) (hr : seen ⟨.run, run⟩)
    (hrid : run.runId = p.runId) (hrs : run.state = .approved) :
    Creates seen (.registerIdempotency r) ⟨.idempotencyRecord, r⟩
  | saveCheckpoint {c : Checkpoint} (hv : c.version = 1) :
    Creates seen (.saveCheckpoint c none) ⟨.checkpoint, c⟩
  | appendAuditEvent {e : AuditEvent} : Creates seen (.appendAuditEvent e) ⟨.auditEvent, e⟩
  | createVerificationEvidence {e : VerificationEvidence} {p : ActionProposal} {run : Run}
    {r : IdempotencyRecord} {approval : Option Approval} (hp : seen ⟨.actionProposal, p⟩)
    (hpid : p.proposalId = e.proposalId) (hr : seen ⟨.run, run⟩) (hrid : run.runId = e.runId)
    (hi : seen ⟨.idempotencyRecord, r⟩) (hk : r.idempotencyKey = deriveIdempotencyKey p)
    (ha : ∀ a ∈ approval, seen ⟨.approval, a⟩ ∧ a.proposalId = e.proposalId)
    (hm : DynamoRepository.evidenceMatches e p run r approval) :
    Creates seen (.createVerificationEvidence e) ⟨.verificationEvidence, e⟩

/-- What a call may write over a record.  A run, a proposal or a checkpoint is the one that was seen;
    an idempotency record may have changed in between. -/
inductive Replaces (seen : Durable → Prop) : Op → Durable → Durable → Prop
  | transitionRun {current run : Run} {next : WorkflowState} {t : Time}
    {approvalId verificationId : Option UUID} (hd : DecisionSeen seen current.runId next approvalId)
    (hv : ProofSeen seen current.runId next verificationId)
    (ht : CloudOpsAgent.transitionRun current next t = .ok run) :
    Replaces seen (.transitionRun current.runId next current.state current.version t approvalId
      verificationId) ⟨.run, current⟩ ⟨.run, run⟩
  | updateRunBudget {current : Run} {budget : BudgetCounters} {t : Time}
    (hb : Store.budgetMonotonic current budget) (ht : current.updatedAt ≤ t) :
    Replaces seen (.updateRunBudget current.runId budget current.version t) ⟨.run, current⟩
      ⟨.run, { current with
        budget := budget
        updatedAt := t
        version := current.version + 1
        version_pos := current.next_version_pos
        time_order := current.time_order.trans ht }⟩
  | transitionProposal {current : ActionProposal} {next : ProposalState}
    (hn : next ∈ current.state.allowed) :
    Replaces seen (.transitionProposal current.proposalId next current.state)
      ⟨.actionProposal, current⟩ ⟨.actionProposal, { current with state := next }⟩
  | completeIdempotency {read stored r : IdempotencyRecord} {result : ActionResult} {t : Time}
    (hread : seen ⟨.idempotencyRecord, read⟩) (hk : stored.idempotencyKey = read.idempotencyKey)
    (hs : stored.status = read.status) (hr : read.complete result t = .ok r) :
    Replaces seen (.completeIdempotency read.idempotencyKey result t read.status)
      ⟨.idempotencyRecord, stored⟩ ⟨.idempotencyRecord, r⟩
  | recordExecutionAcknowledgement {read stored : IdempotencyRecord} {ack : ExecutionAcknowledgement}
    (hread : seen ⟨.idempotencyRecord, read⟩) (hk : stored.idempotencyKey = read.idempotencyKey)
    (hs : stored.status = read.status) (hn : read.executionAcknowledgement = none)
    (hn' : stored.executionAcknowledgement = none) (hp : ack.proposalId = read.proposalId) :
    Replaces seen (.recordExecutionAcknowledgement read.idempotencyKey ack read.status)
      ⟨.idempotencyRecord, stored⟩
      ⟨.idempotencyRecord, { read with executionAcknowledgement := some ack }⟩
  | saveCheckpoint {stored c : Checkpoint} (hid : stored.runId = c.runId)
    (hv : c.version = stored.version + 1) :
    Replaces seen (.saveCheckpoint c (some stored.version)) ⟨.checkpoint, stored⟩ ⟨.checkpoint, c⟩

/-- One write to a store. -/
inductive Landed (seen : Durable → Prop) (s : Store) (op : Op) : Store → Prop
  | created {x : Durable} (h : Creates seen op x) (hn : s.recordAt x.slot = none) :
    Landed seen s op (s.file x)
  | replaced {x y : Durable} (h : Replaces seen op y x) (hy : s.recordAt x.slot = some y) :
    Landed seen s op (s.file x)

theorem DecisionSeen.mono {seen seen' : Durable → Prop} (h : ∀ x, seen x → seen' x) {runId : UUID}
    {next : WorkflowState} {approvalId : Option UUID} (hd : DecisionSeen seen runId next approvalId) :
    DecisionSeen seen' runId next approvalId := by
  intro hn
  obtain ⟨p, a, hid, hp, hrun, hs, ha, hpid, hdec⟩ := hd hn
  exact ⟨p, a, hid, h _ hp, hrun, hs, h _ ha, hpid, hdec⟩

theorem ProofSeen.mono {seen seen' : Durable → Prop} (h : ∀ x, seen x → seen' x) {runId : UUID}
    {next : WorkflowState} {verificationId : Option UUID}
    (hv : ProofSeen seen runId next verificationId) :
    ProofSeen seen' runId next verificationId := by
  intro hn
  obtain ⟨p, e, r, hid, hp, he, hrun, hpid, hr, hk, hc⟩ := hv hn
  exact ⟨p, e, r, hid, h _ hp, h _ he, hrun, hpid, h _ hr, hk, hc⟩

theorem Creates.mono {seen seen' : Durable → Prop} (h : ∀ x, seen x → seen' x) {op : Op} {x : Durable}
    (hc : Creates seen op x) : Creates seen' op x := by
  cases hc with
  | createRun hv hs => exact .createRun hv hs
  | createProposal hs => exact .createProposal hs
  | createApproval hp hs hb => exact .createApproval (h _ hp) hs hb
  | registerIdempotency hp hpid hs hf hk ha haid had hr hrid hrs =>
    exact .registerIdempotency (h _ hp) hpid hs hf hk (h _ ha) haid had (h _ hr) hrid hrs
  | saveCheckpoint hv => exact .saveCheckpoint hv
  | appendAuditEvent => exact .appendAuditEvent
  | createVerificationEvidence hp hpid hr hrid hi hk ha hm =>
    exact .createVerificationEvidence (h _ hp) hpid (h _ hr) hrid (h _ hi) hk
      (fun a hmem => ⟨h _ (ha a hmem).1, (ha a hmem).2⟩) hm

/-! ## Histories -/

section Histories

variable {ι : Type}

/-- The stores a log has gone through. -/
def storeVersions (log : List (ι × Store)) : List Store := log.map Prod.snd ++ [({} : Store)]

def currentStore : List (ι × Store) → Store
  | [] => {}
  | (_, s) :: _ => s

/-- The record was there at some time. -/
def SeenIn (log : List (ι × Store)) (x : Durable) : Prop :=
  ∃ s ∈ storeVersions log, s.recordAt x.slot = some x

/-- One write after the other, the latest first, each by a different call. -/
inductive WriteHistory (calls : ι → Op) : List (ι × Store) → Prop
  | nil : WriteHistory calls []
  | cons {i : ι} {s : Store} {log : List (ι × Store)} (h : WriteHistory calls log)
    (hi : i ∉ log.map Prod.fst) (hl : Landed (SeenIn log) (currentStore log) (calls i) s) :
    WriteHistory calls ((i, s) :: log)

theorem currentStore_mem (log : List (ι × Store)) : currentStore log ∈ storeVersions log := by
  obtain _ | ⟨⟨i, s⟩, log⟩ := log
  · exact List.mem_singleton_self _
  · exact List.mem_cons_self

end Histories

/-! ## Order -/

/-- The same registration, whatever has become of it. -/
structure RegistrationEvolves (r r' : IdempotencyRecord) : Prop where
  proposalId : r'.proposalId = r.proposalId
  actionFingerprint : r'.actionFingerprint = r.actionFingerprint
  registeredAt : r'.registeredAt = r.registeredAt

omit [Sha256] in
theorem RegistrationEvolves.refl (r : IdempotencyRecord) : RegistrationEvolves r r :=
  ⟨rfl, rfl, rfl⟩

omit [Sha256] in
theorem RegistrationEvolves.trans {r r' r'' : IdempotencyRecord} (h : RegistrationEvolves r r')
    (h' : RegistrationEvolves r' r'') : RegistrationEvolves r r'' :=
  ⟨h'.proposalId.trans h.proposalId, h'.actionFingerprint.trans h.actionFingerprint,
    h'.registeredAt.trans h.registeredAt⟩

/-- The order along which conditional writes move a store. -/
structure Store.Moves (s s' : Store) : Prop where
  runs : s.runs.Evolves RunEvolves s'.runs
  proposals : s.proposals.Evolves ActionProposal.SameContent s'.proposals
  approvals : s.approvals.Evolves Eq s'.approvals
  idempotency : s.idempotency.Evolves RegistrationEvolves s'.idempotency
  checkpoints : s.checkpoints.Evolves CheckpointEvolves s'.checkpoints
  auditEvents : s.auditEvents.Evolves Eq s'.auditEvents
  verificationEvidence : s.verificationEvidence.Evolves Eq s'.verificationEvidence

namespace Store

theorem Moves.refl (s : Store) : s.Moves s where
  runs := .refl RunEvolves.refl _
  proposals := .refl ActionProposal.SameContent.refl _
  approvals := .refl (fun _ => rfl) _
  idempotency := .refl RegistrationEvolves.refl _
  checkpoints := .refl CheckpointEvolves.refl _
  auditEvents := .refl (fun _ => rfl) _
  verificationEvidence := .refl (fun _ => rfl) _

theorem Moves.trans {s s' s'' : Store} (h : s.Moves s') (h' : s'.Moves s'') : s.Moves s'' where
  runs := h.runs.trans (fun _ _ _ h1 h2 => h1.trans h2) h'.runs
  proposals := h.proposals.trans (fun _ _ _ h1 h2 => h1.trans h2) h'.proposals
  approvals := h.approvals.trans_eq h'.approvals
  idempotency := h.idempotency.trans (fun _ _ _ h1 h2 => h1.trans h2) h'.idempotency
  checkpoints := h.checkpoints.trans (fun _ _ _ h1 h2 => h1.trans h2) h'.checkpoints
  auditEvents := h.auditEvents.trans_eq h'.auditEvents
  verificationEvidence := h.verificationEvidence.trans_eq h'.verificationEvidence

/-- The store holds a later version of the record. -/
def Knows (s : Store) : Durable → Prop
  | ⟨.run, r⟩ => s.KnowsRun r
  | ⟨.actionProposal, p⟩ => s.KnowsProposal p
  | ⟨.approval, (a : Approval)⟩ => s.approvals.get a.proposalId = some a
  | ⟨.idempotencyRecord, r⟩ => s.idempotency.Known RegistrationEvolves r
  | ⟨.checkpoint, c⟩ => s.checkpoints.Known CheckpointEvolves c
  | ⟨.auditEvent, (e : AuditEvent)⟩ => s.auditEvents.get (e.runId, e.eventId) = some e
  | ⟨.verificationEvidence, (e : VerificationEvidence)⟩ =>
    s.verificationEvidence.get (e.runId, e.proposalId) = some e

theorem map_mk_iff {d : DurableContract} {o : Option d.Record} {r : d.Record} :
    (o.map fun r => Durable.mk d r) = some ⟨d, r⟩ ↔ o = some r := by
  rw [Option.map_eq_some_iff]
  constructor
  · rintro ⟨r', hr', he⟩
    cases he
    exact hr'
  · exact fun h => ⟨r, h, rfl⟩

/-- What was there is known afterwards. -/
theorem Moves.knows {s s' : Store} (h : s.Moves s') {x : Durable}
    (hx : s.recordAt x.slot = some x) : s'.Knows x := by
  obtain ⟨d, r⟩ := x
  have hget := fun o => (map_mk_iff (d := d) (o := o) (r := r)).mp
  cases d with
  | run => exact h.runs _ _ (hget _ hx)
  | actionProposal => exact h.proposals _ _ (hget _ hx)
  | approval => exact h.approvals.get_eq (hget _ hx)
  | idempotencyRecord => exact h.idempotency _ _ (hget _ hx)
  | checkpoint => exact h.checkpoints _ _ (hget _ hx)
  | auditEvent => exact h.auditEvents.get_eq (hget _ hx)
  | verificationEvidence => exact h.verificationEvidence.get_eq (hget _ hx)

/-- A record in a free slot disturbs nothing. -/
theorem moves_file_new {s : Store} {x : Durable} (h : s.recordAt x.slot = none) :
    s.Moves (s.file x) := by
  obtain ⟨d, r⟩ := x
  have hnone : ∀ {d : DurableContract} {o : Option d.Record},
      (o.map fun r => Durable.mk d r) = none → o = none := fun h => Option.map_eq_none_iff.mp h
  cases d with
  | run =>
    refine { Moves.refl s with runs := Table.evolves_put RunEvolves.refl fun w hw => ?_ }
    cases hw.symm.trans (hnone h)
  | actionProposal =>
    refine { Moves.refl s with
      proposals := Table.evolves_put ActionProposal.SameContent.refl fun w hw => ?_ }
    cases hw.symm.trans (hnone h)
  | approval =>
    refine { Moves.refl s with approvals := Table.evolves_put (fun _ => rfl) fun w hw => ?_ }
    cases hw.symm.trans (hnone h)
  | idempotencyRecord =>
    refine { Moves.refl s with
      idempotency := Table.evolves_put RegistrationEvolves.refl fun w hw => ?_ }
    cases hw.symm.trans (hnone h)
  | checkpoint =>
    refine { Moves.refl s with
      checkpoints := Table.evolves_put CheckpointEvolves.refl fun w hw => ?_ }
    cases hw.symm.trans (hnone h)
  | auditEvent =>
    refine { Moves.refl s with auditEvents := Table.evolves_put (fun _ => rfl) fun w hw => ?_ }
    cases hw.symm.trans (hnone h)
  | verificationEvidence =>
    refine { Moves.refl s with
      verificationEvidence := Table.evolves_put (fun _ => rfl) fun w hw => ?_ }
    cases hw.symm.trans (hnone h)

end Store

omit [Sha256] in
/-- What a completion keeps. -/
theorem IdempotencyRecord.complete_ok {r r' : IdempotencyRecord} {result : ActionResult} {t : Time}
    (h : r.complete result t = .ok r') : r'.idempotencyKey = r.idempotencyKey ∧
      RegistrationEvolves r r' ∧ r'.executionAcknowledgement = r.executionAcknowledgement ∧
      r'.status = completedIdempotencyStatus result ∧ r'.completedAt = some t := by
  unfold IdempotencyRecord.complete at h
  split at h
  · cases h
    exact ⟨rfl, ⟨rfl, rfl, rfl⟩, rfl, rfl, rfl⟩
  · cases h

omit [Sha256] in
theorem RunEvolves.of_budget {current : Run} {budget : BudgetCounters} {t : Time}
    (ht : current.updatedAt ≤ t) : RunEvolves current { current with
      budget := budget
      updatedAt := t
      version := current.version + 1
      version_pos := current.next_version_pos
      time_order := current.time_order.trans ht } where
  traceId := rfl
  correlationId := rfl
  version_le := Nat.le_succ _
  eq_of_version h := absurd h (Nat.succ_ne_self _)
  updatedAt_le := ht
  terminal _ := rfl
  beforeExecuting := id
  beforeApproved := id

/-- **A write moves the store along its order**, if what the writer has seen is known to the store. -/
theorem Landed.moves {seen : Durable → Prop} {s s' : Store} {op : Op} (h : Landed seen s op s')
    (hknown : ∀ x, seen x → s.Knows x) : s.Moves s' := by
  cases h with
  | created h hn => exact Store.moves_file_new hn
  | replaced h hy =>
    cases h with
    | transitionRun hd hv ht =>
      refine { Store.Moves.refl s with runs := Table.evolves_put RunEvolves.refl fun w hw => ?_ }
      cases hw.symm.trans (Store.map_mk_iff.mp hy)
      exact .of_transition ht
    | updateRunBudget hb ht =>
      refine { Store.Moves.refl s with runs := Table.evolves_put RunEvolves.refl fun w hw => ?_ }
      cases hw.symm.trans (Store.map_mk_iff.mp hy)
      exact .of_budget ht
    | transitionProposal hn =>
      refine { Store.Moves.refl s with
        proposals := Table.evolves_put ActionProposal.SameContent.refl fun w hw => ?_ }
      cases hw.symm.trans (Store.map_mk_iff.mp hy)
      rfl
    | completeIdempotency hread hk hs hr =>
      obtain ⟨hkey, hmoves, -⟩ := IdempotencyRecord.complete_ok hr
      refine { Store.Moves.refl s with
        idempotency := Table.evolves_put RegistrationEvolves.refl fun w hw => ?_ }
      -- the record that is replaced has the owner of the one that was read
      obtain ⟨stored, hstored, hread⟩ := hknown _ hread
      rw [hkey, hstored] at hw
      cases hw
      exact ⟨hmoves.1.trans hread.1.symm, hmoves.2.trans hread.2.symm, hmoves.3.trans hread.3.symm⟩
    | recordExecutionAcknowledgement hread hk hs hn hn' hp =>
      refine { Store.Moves.refl s with
        idempotency := Table.evolves_put RegistrationEvolves.refl fun w hw => ?_ }
      obtain ⟨stored, hstored, hread⟩ := hknown _ hread
      cases hw.symm.trans hstored
      exact ⟨hread.1.symm, hread.2.symm, hread.3.symm⟩
    | saveCheckpoint hid hv =>
      refine { Store.Moves.refl s with
        checkpoints := Table.evolves_put CheckpointEvolves.refl fun w hw => ?_ }
      cases hw.symm.trans (Store.map_mk_iff.mp hy)
      exact ⟨by omega, by omega⟩

section Histories

variable {ι : Type} {calls : ι → Op} {log : List (ι × Store)}

/-- **Every store of a history has moved to the current one.** -/
theorem WriteHistory.moves (h : WriteHistory calls log) :
    ∀ s ∈ storeVersions log, s.Moves (currentStore log) := by
  induction h with
  | nil =>
    intro s hs
    obtain rfl := List.mem_singleton.mp hs
    exact .refl _
  | @cons i s' log h hi hl ih =>
    -- what the writer had seen is known to the store it writes to, by the moves so far
    have hstep : (currentStore log).Moves s' := by
      refine hl.moves fun x hx => ?_
      obtain ⟨s, hs, hrecord⟩ := hx
      exact (ih s hs).knows hrecord
    intro s hs
    obtain rfl | hs := List.mem_cons.mp hs
    · exact .refl _
    · exact (ih s hs).trans hstep

/-- What was seen is known. -/
theorem WriteHistory.knows (h : WriteHistory calls log) {x : Durable} (hx : SeenIn log x) :
    (currentStore log).Knows x := by
  obtain ⟨s, hs, hrecord⟩ := hx
  exact (h.moves s hs).knows hrecord

end Histories

/-! ## Grounds -/

namespace Store

/-- A human decision on a proposal of the run. -/
def Decided (s : Store) (runId : UUID) (decision : ApprovalDecision) : Prop :=
  ∃ p a, s.proposals.get p.proposalId = some p ∧ p.runId = runId ∧
    s.approvals.get p.proposalId = some a ∧ a.decision = decision

/-- The registered action was approved, in a run that had been approved. -/
def Registered (s : Store) (r : IdempotencyRecord) : Prop :=
  ∃ p a run, s.proposals.get r.proposalId = some p ∧
    r.actionFingerprint = deriveActionFingerprint p ∧ r.idempotencyKey = deriveIdempotencyKey p ∧
    s.approvals.get r.proposalId = some a ∧ a.decision = .approved ∧
    s.runs.get p.runId = some run ∧ run.state.beforeApproved = false

/-- The proof is about a registered action, in a run that had been executing. -/
def Proven (s : Store) (e : VerificationEvidence) : Prop :=
  ∃ p run r, s.proposals.get e.proposalId = some p ∧ p.runId = e.runId ∧ p.target = e.target ∧
    s.runs.get e.runId = some run ∧ run.traceId = e.traceId ∧ run.correlationId = e.correlationId ∧
    run.state.beforeExecuting = false ∧ s.idempotency.get (deriveIdempotencyKey p) = some r

/-- A run that claims success has a proof, about a registered action. -/
def Succeeded (s : Store) (runId : UUID) : Prop :=
  ∃ p e r, s.proposals.get p.proposalId = some p ∧
    s.verificationEvidence.get (runId, p.proposalId) = some e ∧
    s.idempotency.get (deriveIdempotencyKey p) = some r

/-- What the record stands on is there. -/
def Grounds (s : Store) : Durable → Prop
  | ⟨.run, (run : Run)⟩ =>
    (run.state = .approved ∨ run.state = .executing → s.Decided run.runId .approved) ∧
      (run.state = .deniedByHuman → s.Decided run.runId .denied) ∧
      (run.state = .successWithEvidence → s.Succeeded run.runId)
  | ⟨.approval, (a : Approval)⟩ => ∃ p, s.proposals.get a.proposalId = some p ∧ a.Binds p
  | ⟨.idempotencyRecord, r⟩ => s.Registered r
  | ⟨.verificationEvidence, e⟩ => s.Proven e
  | _ => True

/-- Every record stands on records that are there. -/
def Grounded (s : Store) : Prop := ∀ slot x, s.recordAt slot = some x → s.Grounds x

section Moves

variable {s s' : Store} (h : s.Moves s')
include h

theorem Decided.moves {runId : UUID} {decision : ApprovalDecision} (hd : s.Decided runId decision) :
    s'.Decided runId decision := by
  obtain ⟨p, a, hp, hrun, ha, hdec⟩ := hd
  obtain ⟨p', hp', hsame⟩ := h.proposals _ p hp
  obtain ⟨hpid, hrid, -⟩ := hsame.fields
  have ha' := h.approvals.get_eq ha
  rw [← hpid] at hp' ha'
  exact ⟨p', a, hp', hrid.trans hrun, ha', hdec⟩

theorem Registered.moves {r : IdempotencyRecord} (hr : s.Registered r) : s'.Registered r := by
  obtain ⟨p, a, run, hp, hf, hk, ha, hdec, hrun, hstate⟩ := hr
  obtain ⟨p', hp', hsame⟩ := h.proposals _ p hp
  obtain ⟨-, hrid, -⟩ := hsame.fields
  obtain ⟨run', hrun', hev⟩ := h.runs _ run hrun
  refine ⟨p', a, run', hp', ?_, ?_, h.approvals.get_eq ha, hdec, hrid ▸ hrun', ?_⟩
  · rw [hf, deriveActionFingerprint_congr hsame]
  · rw [hk, deriveIdempotencyKey_congr hsame]
  · by_contra hbefore
    rw [Bool.not_eq_false] at hbefore
    exact absurd (hev.beforeApproved hbefore) (by rw [hstate]; exact Bool.false_ne_true)

theorem Proven.moves {e : VerificationEvidence} (he : s.Proven e) : s'.Proven e := by
  obtain ⟨p, run, r, hp, hrid, htarget, hrun, htrace, hcorr, hstate, hr⟩ := he
  obtain ⟨p', hp', hsame⟩ := h.proposals _ p hp
  obtain ⟨-, hrid', -, htarget', -⟩ := hsame.fields
  obtain ⟨run', hrun', hev⟩ := h.runs _ run hrun
  obtain ⟨r', hr', -⟩ := h.idempotency _ r hr
  refine ⟨p', run', r', hp', hrid'.trans hrid, htarget'.trans htarget, hrun',
    hev.traceId.trans htrace, hev.correlationId.trans hcorr, ?_, ?_⟩
  · by_contra hbefore
    rw [Bool.not_eq_false] at hbefore
    exact absurd (hev.beforeExecuting hbefore) (by rw [hstate]; exact Bool.false_ne_true)
  · rw [deriveIdempotencyKey_congr hsame]
    exact hr'

theorem Succeeded.moves {runId : UUID} (hs : s.Succeeded runId) : s'.Succeeded runId := by
  obtain ⟨p, e, r, hp, he, hr⟩ := hs
  obtain ⟨p', hp', hsame⟩ := h.proposals _ p hp
  obtain ⟨hpid, -⟩ := hsame.fields
  obtain ⟨r', hr', -⟩ := h.idempotency _ r hr
  have he' := h.verificationEvidence.get_eq he
  rw [← hpid] at hp' he'
  refine ⟨p', e, r', hp', he', ?_⟩
  rw [deriveIdempotencyKey_congr hsame]
  exact hr'

/-- Grounds stay. -/
theorem Grounds.moves {x : Durable} (hx : s.Grounds x) : s'.Grounds x := by
  obtain ⟨d, r⟩ := x
  cases d with
  | run =>
    obtain ⟨happroved, hdenied, hsuccess⟩ := hx
    exact ⟨fun hs => (happroved hs).moves h, fun hs => (hdenied hs).moves h,
      fun hs => (hsuccess hs).moves h⟩
  | approval =>
    obtain ⟨p, hp, hb⟩ := hx
    obtain ⟨p', hp', hsame⟩ := h.proposals _ p hp
    exact ⟨p', hp', hb.sameContent hsame⟩
  | idempotencyRecord => exact Registered.moves h hx
  | verificationEvidence => exact Proven.moves h hx
  | actionProposal | checkpoint | auditEvent => exact trivial

end Moves

end Store

variable {seen : Durable → Prop} {s : Store}

/-- What is created stands on what was seen. -/
theorem Creates.grounds {op : Op} {x : Durable} (h : Creates seen op x)
    (hknown : ∀ x, seen x → s.Knows x) : s.Grounds x := by
  cases h with
  | createRun hv hs =>
    refine ⟨?_, ?_, ?_⟩ <;> rw [hs]
    · rintro (h | h) <;> cases h
    · exact nofun
    · exact nofun
  | createProposal hs => exact trivial
  | @createApproval a p hp hs hb =>
    obtain ⟨p', hp', hsame⟩ := hknown _ hp
    exact ⟨p', hb.1 ▸ hp', hb.sameContent hsame⟩
  | @registerIdempotency r p a run hp hpid hs hf hk ha haid had hr hrid hrs =>
    obtain ⟨p', hp', hsame⟩ := hknown _ hp
    obtain ⟨-, hrid', -⟩ := hsame.fields
    obtain ⟨run', hrun', hev⟩ := hknown _ hr
    have ha : s.approvals.get a.proposalId = some a := hknown _ ha
    refine ⟨p', a, run', hpid ▸ hp', ?_, ?_, haid ▸ ha, had, ?_, ?_⟩
    · rw [hf, deriveActionFingerprint_congr hsame]
    · rw [hk, deriveIdempotencyKey_congr hsame]
    · rw [hrid', ← hrid]
      exact hrun'
    · by_contra hbefore
      rw [Bool.not_eq_false] at hbefore
      have hold := hev.beforeApproved hbefore
      rw [hrs] at hold
      cases hold
  | saveCheckpoint hv => exact trivial
  | appendAuditEvent => exact trivial
  | @createVerificationEvidence e p run r approval hp hpid hr hrid hi hk ha hm =>
    simp only [DynamoRepository.evidenceMatches, Bool.and_eq_true, beq_iff_eq] at hm
    obtain ⟨⟨⟨⟨⟨hverifying, hprun⟩, htarget⟩, htrace⟩, hcorr⟩, -⟩ := hm
    obtain ⟨p', hp', hsame⟩ := hknown _ hp
    obtain ⟨-, hrid', -, htarget', -⟩ := hsame.fields
    obtain ⟨run', hrun', hev⟩ := hknown _ hr
    obtain ⟨r', hr', -⟩ := hknown _ hi
    refine ⟨p', run', r', hpid ▸ hp', hrid'.trans hprun, htarget'.trans htarget, hrid ▸ hrun',
      hev.traceId.trans htrace, hev.correlationId.trans hcorr, ?_, ?_⟩
    · by_contra hbefore
      rw [Bool.not_eq_false] at hbefore
      have hold := hev.beforeExecuting hbefore
      rw [hverifying] at hold
      cases hold
    · rw [deriveIdempotencyKey_congr hsame, ← hk]
      exact hr'

/-- A decision that was seen is there. -/
theorem DecisionSeen.decided {runId : UUID} {next : WorkflowState} {approvalId : Option UUID}
    (h : DecisionSeen seen runId next approvalId) (hknown : ∀ x, seen x → s.Knows x)
    (hn : next = .approved ∨ next = .deniedByHuman) :
    s.Decided runId (if next = .approved then .approved else .denied) := by
  obtain ⟨p, a, -, hp, hrun, -, ha, haid, hdec⟩ := h hn
  obtain ⟨p', hp', hsame⟩ := hknown _ hp
  obtain ⟨hpid, hrid, -⟩ := hsame.fields
  have ha : s.approvals.get a.proposalId = some a := hknown _ ha
  rw [haid, ← hpid] at ha
  rw [← hpid] at hp'
  exact ⟨p', a, hp', hrid.trans hrun, ha, hdec⟩

/-- A proof that was seen is there. -/
theorem ProofSeen.succeeded {runId : UUID} {next : WorkflowState} {verificationId : Option UUID}
    (h : ProofSeen seen runId next verificationId) (hknown : ∀ x, seen x → s.Knows x)
    (hn : next = .successWithEvidence) : s.Succeeded runId := by
  obtain ⟨p, e, r, -, hp, he, herun, hepid, hr, hk, -⟩ := h hn
  obtain ⟨p', hp', hsame⟩ := hknown _ hp
  obtain ⟨hpid, -⟩ := hsame.fields
  have he : s.verificationEvidence.get (e.runId, e.proposalId) = some e := hknown _ he
  obtain ⟨r', hr', -⟩ := hknown _ hr
  rw [herun, hepid, ← hpid] at he
  rw [← hpid] at hp'
  refine ⟨p', e, r', hp', he, ?_⟩
  rw [deriveIdempotencyKey_congr hsame, ← hk]
  exact hr'

/-- What replaces a record stands on what was seen, and on what the record stood on. -/
theorem Replaces.grounds {op : Op} {x y : Durable} (h : Replaces seen op y x)
    (hknown : ∀ x, seen x → s.Knows x) (hy : s.recordAt x.slot = some y) (hs : s.Grounds y) :
    s.Grounds x := by
  cases h with
  | @transitionRun current run next t approvalId verificationId hd hv ht =>
    obtain ⟨hallowed, -, hstate, -, -, hid, -⟩ := transitionRun_ok ht
    refine ⟨?_, ?_, ?_⟩ <;> rw [hstate, hid]
    · rintro (rfl | rfl)
      · exact hd.decided hknown (.inl rfl)
      · exact hs.1 (.inl (approved_of_executing_allowed hallowed))
    · rintro rfl
      exact hd.decided hknown (.inr rfl)
    · exact hv.succeeded hknown
  | updateRunBudget hb ht => exact hs
  | transitionProposal hn => exact trivial
  | completeIdempotency hread hk hstatus hr =>
    obtain ⟨hkey, hmoves, -⟩ := IdempotencyRecord.complete_ok hr
    obtain ⟨stored, hstored, hev⟩ := hknown _ hread
    have hget := Store.map_mk_iff.mp hy
    rw [hkey, hstored] at hget
    cases hget
    obtain ⟨p, a, run, hp, hf, hkp, ha, hrest⟩ := hs
    have hpid := hmoves.proposalId.trans hev.proposalId.symm
    rw [← hpid] at hp ha
    exact ⟨p, a, run, hp, (hmoves.2.trans hev.2.symm).trans hf, (hkey.trans hk.symm).trans hkp, ha,
      hrest⟩
  | recordExecutionAcknowledgement hread hk hstatus hn hn' hp =>
    obtain ⟨stored, hstored, hev⟩ := hknown _ hread
    have hget := Store.map_mk_iff.mp hy
    cases hstored.symm.trans hget
    obtain ⟨p, a, run, hp, hf, hkp, ha, hrest⟩ := hs
    rw [hev.proposalId] at hp ha
    exact ⟨p, a, run, hp, hev.2.symm.trans hf, hk.symm.trans hkp, ha, hrest⟩
  | saveCheckpoint hid hv => exact trivial

/-- **A write keeps the store grounded.** -/
theorem Landed.grounded {op : Op} {s' : Store} (h : Landed seen s op s')
    (hknown : ∀ x, seen x → s.Knows x) (hs : s.Grounded) : s'.Grounded := by
  have hmoves := h.moves hknown
  obtain ⟨x, rfl, hx⟩ : ∃ x, s' = s.file x ∧ s.Grounds x := by
    cases h with
    | created h hn => exact ⟨_, rfl, h.grounds hknown⟩
    | replaced h hy => exact ⟨_, rfl, h.grounds hknown hy (hs _ _ hy)⟩
  intro slot y hy
  by_cases hslot : slot = x.slot
  · subst hslot
    rw [Store.recordAt_file_self] at hy
    cases hy
    exact hx.moves hmoves
  · rw [Store.recordAt_file_of_ne s hslot] at hy
    exact (hs slot y hy).moves hmoves

theorem grounded_empty : ({} : Store).Grounded := by
  intro slot x h
  rw [Store.recordAt_empty] at h
  cases h

/-- **Every store of a history is grounded.** -/
theorem WriteHistory.grounded {ι : Type} {calls : ι → Op} {log : List (ι × Store)}
    (h : WriteHistory calls log) : (currentStore log).Grounded := by
  induction h with
  | nil => exact grounded_empty
  | cons h hi hl ih => exact hl.grounded (fun x hx => h.knows hx) ih

end CloudOpsAgent
