/-
  What `recover` does with a run that is closed without success.

  The last branch of `recover` preserves a terminal state: it appends one audit event and reports
  `TERMINAL`.  The run gets there only past `_validate_snapshot`, which asks for a proposal in every
  state but the first three, closed or not.

  `terminal_preserved_iff` says which closed runs are preserved; `closed_before_proposal` is a run
  that exhausted its budget while it was being investigated, and is refused.
-/
import CloudOpsAgent.Recovery.Unknown

namespace CloudOpsAgent

open ClientProg ClientProg.Prog Environment

section Terminal

variable [Sha256] {ι : Type} {e : Environment} {who : ι} {st : Solo ι}

/-- The audit trail of the run takes an event with this identifier. -/
def Store.AuditRoom (s : Store) (runId eventId : UUID) : Prop :=
  s.auditEvents.get (runId, eventId) = none ∧
    s.countAuditEvents runId < MAX_AUDIT_EVENTS_PER_RUN

/-- An event that fits is appended. -/
theorem Store.AuditRoom.append {s : Store} {event : AuditEvent}
    (h : s.AuditRoom event.runId event.eventId) :
    s.appendAuditEvent event = .ok (event, { s with auditEvents := s.auditEvents.put event }) := by
  have hnew : ¬ (s.auditEvents.get (event.runId, event.eventId)).isSome = true := by
    rw [h.1]
    exact Bool.false_ne_true
  rw [Store.appendAuditEvent, if_neg hnew, if_neg (not_le.mpr h.2)]

/-- An event that does not fit is refused. -/
theorem Store.AuditRoom.refuse {s : Store} {event : AuditEvent}
    (h : ¬ s.AuditRoom event.runId event.eventId) :
    ∃ message, s.appendAuditEvent event = .error (.storageConflict message) := by
  unfold Store.appendAuditEvent
  split
  · exact ⟨_, rfl⟩
  split
  · exact ⟨_, rfl⟩
  · next hnew hfull =>
    refine absurd ⟨?_, not_le.mp hfull⟩ h
    exact Option.not_isSome_iff_eq_none.mp hnew

namespace RecoveryCoordinator

/-- A request for the run and for its stored proposal, if it has one. -/
def Names (s : Store) (request : RecoveryRequest) : Prop :=
  match request.proposalId with
  | some proposalId => ∃ p, s.proposals.get proposalId = some p ∧ p.runId = request.runId
  | none => ∀ proposalId p, s.proposals.get proposalId = some p → p.runId ≠ request.runId

/-- The run was reported closed, and one audit event of the run is all that was written. -/
def Preserved (s : Store) (runId : UUID) (o : Except PyExc (ControlResult RecoveryOutcome))
    (s' : Store) : Prop :=
  ∃ outcome event, o = .ok (.succeeded outcome) ∧ outcome.verdict.status = .terminal ∧
    outcome.verdict.action = .preserveTerminal ∧ event.runId = runId ∧
    s.auditEvents.get (event.runId, event.eventId) = none ∧
    s' = { s with auditEvents := s.auditEvents.put event }

/-- The checkpoint names this proposal, or none. -/
def CheckpointNames (c : Checkpoint) (p : ActionProposal) : Prop :=
  ∀ j, c.resumeMetadata.lookup "proposal_id" = some j → j = .null ∨ j = .str p.proposalId.str

/-- The records with which a closed run is recognized: its proposal, and a checkpoint that names it
    or, in most states, none. -/
def Recognized (s : Store) (request : RecoveryRequest) (run : Run) : Prop :=
  ∃ p, request.proposalId.bind s.proposals.get = some p ∧
    match s.checkpoints.get run.runId with
    | none => run.state ≠ .noActionRequired ∧ run.state ≠ .recommendationOnly
    | some c => CheckpointNames c p

/-- Not a success. -/
def Refused (o : Except PyExc (ControlResult RecoveryOutcome)) : Prop :=
  ∀ outcome, o ≠ .ok (.succeeded outcome)

theorem Refused.not_preserved {s s' : Store} {runId : UUID}
    {o : Except PyExc (ControlResult RecoveryOutcome)} (h : Refused o) :
    ¬ Preserved s runId o s' := by
  rintro ⟨outcome, event, ho, -⟩
  exact h outcome ho

theorem wp_auditedFailure_refused (run : Run) (proposal : Option ActionProposal) (failure : FailureDetail) :
    e.Wp who (auditedFailure run proposal failure) (fun o _ => Refused o) st := by
  have hfailed : (auditedFailure run proposal failure).Returns fun r => ∃ f, r = .failed f := by
    unfold auditedFailure
    refine Flow.returns_tryExcept (fun x h hx => ?_) fun _ => ⟨_, rfl⟩
    unfold Flow.catching at hx
    split at hx
    · cases hx
      exact ⟨_, rfl⟩
    · cases hx
  refine (wp_returns hfailed).mono fun o st' h outcome ho => ?_
  obtain ⟨f, hf⟩ := h _ ho
  cases hf

/-- What the last branch of `recover` decides. -/
def terminalVerdict : RecoveryVerdict where
  status := .terminal
  action := .preserveTerminal
  reasonCode := "TERMINAL_STATE_PRESERVED"
  reason := "Durable terminal state remains closed after restart"

/-- An event that does not fit ends the flow that appends it. -/
theorem wp_append_full {event : AuditEvent}
    (h : ¬ st.world.store.AuditRoom event.runId event.eventId) :
    e.Wp who (do let _ ← Flow.op (.appendAuditEvent event); return) (fun o _ =>
      ∃ message, o = .error (.storageConflict message)) st := by
  obtain ⟨message, hrefuse⟩ := Store.AuditRoom.refuse h
  exact wp_op_refused hrefuse ⟨message, rfl⟩

/-- The decision is audited, or not reported. -/
theorem wp_outcome_terminal (run : Run) (proposal : Option ActionProposal) :
    e.Wp who (outcome run proposal terminalVerdict) (fun o st' =>
      Preserved st.world.store run.runId o st'.world.store ↔
        st.world.store.AuditRoom run.runId (e.ids st.tick)) st := by
  unfold outcome
  refine wp_freshId_bind ?_
  by_cases hroom : st.world.store.AuditRoom run.runId (e.ids st.tick)
  · refine wp_try (R := fun o st' => o = .ok () ∧ ∃ event : AuditEvent, event.runId = run.runId ∧
      event.eventId = e.ids st.tick ∧ st'.world.store =
        { st.world.store with auditEvents := st.world.store.auditEvents.put event }) ?_ ?_ ?_
    · refine wp_clock_bind (wp_op_bind (Store.AuditRoom.append hroom) ?_)
      exact wp_ret ⟨rfl, _, rfl, rfl, rfl⟩
    · rintro _ st' ⟨-, event, hrun, hid, hstore⟩
      refine wp_ret (iff_of_true ⟨_, event, rfl, rfl, rfl, hrun, ?_, hstore⟩ hroom)
      rw [hrun, hid]
      exact hroom.1
    · rintro x st' ⟨hx, -⟩
      cases hx
  · refine wp_try (R := fun o _ => ∃ message, o = .error (.storageConflict message)) ?_ ?_ ?_
    · exact wp_clock_bind (wp_append_full hroom)
    · rintro a st' ⟨message, hx⟩
      cases hx
    · rintro x st' ⟨message, hx⟩
      cases hx
      refine wp_ret (iff_of_false (Refused.not_preserved fun outcome ho => ?_) hroom)
      cases ho

/-! ## The records it reads first -/

/-- What `recover` reads of a run and its stored proposal. -/
def snapshotOf (s : Store) (run : Run) (p : ActionProposal) : Snapshot where
  run := run
  proposal := some p
  approval := s.approvals.get p.proposalId
  idempotency := s.idempotency.get (deriveIdempotencyKey p)
  checkpoint := s.checkpoints.get run.runId
  evidence := s.verificationEvidence.get (run.runId, p.proposalId)

/-- With a stored proposal there are six reads, none of which changes anything. -/
theorem wp_readSnapshot_found {request : RecoveryRequest} {run : Run} {proposalId : UUID}
    {p : ActionProposal} (hrun : st.world.store.runs.get request.runId = some run)
    (hrequest : request.proposalId = some proposalId)
    (hp : st.world.store.proposals.get proposalId = some p) :
    e.Wp who (readSnapshot request) (fun o st' =>
      o = .ok (some (snapshotOf st.world.store run p)) ∧ st'.world.store = st.world.store ∧
        st'.tick = st.tick + 6) st := by
  unfold readSnapshot
  refine wp_read (o := .getRun request.runId) rfl fun found hfound => ?_
  rw [hrun] at hfound
  subst hfound
  unfold readRecords requestedProposal
  rw [hrequest]
  refine wp_bind (R := fun o st' => o = .ok (snapshotOf st.world.store run p) ∧
    st'.world.store = st.world.store ∧ st'.tick = st.tick + 6) ?_ ?_ ?_
  · refine wp_read (o := .getProposal proposalId) rfl fun found hfound => ?_
    have hfound' : found = some p := hfound.trans hp
    subst hfound'
    refine wp_read (o := .getCheckpoint run.runId) rfl fun checkpoint hcheckpoint => ?_
    refine wp_read (o := .getApproval p.proposalId) rfl fun approval happroval => ?_
    refine wp_read (o := .getIdempotency (deriveIdempotencyKey p)) rfl fun record hrecord => ?_
    refine wp_read (o := .getVerificationEvidence run.runId p.proposalId) rfl fun ev hev => ?_
    subst hcheckpoint happroval hrecord hev
    exact wp_ret ⟨rfl, rfl, rfl⟩
  · rintro s st' ⟨hs, hst', htick⟩
    cases hs
    exact wp_ret ⟨rfl, hst', htick⟩
  · rintro x st' ⟨hx, -⟩
    cases hx

/-- Without one, the snapshot has none. -/
theorem wp_readSnapshot_without {request : RecoveryRequest} {run : Run}
    (hrun : st.world.store.runs.get request.runId = some run)
    (hrequest : request.proposalId = none) :
    e.Wp who (readSnapshot request) (fun o _ =>
      ∃ s, o = .ok (some s) ∧ s.run = run ∧ s.proposal = none) st := by
  unfold readSnapshot
  refine wp_read (o := .getRun request.runId) rfl fun found hfound => ?_
  rw [hrun] at hfound
  subst hfound
  unfold readRecords requestedProposal
  rw [hrequest]
  refine wp_bind (R := fun o _ => ∃ s : Snapshot, o = .ok s ∧ s.run = run ∧ s.proposal = none)
    ?_ ?_ ?_
  · exact wp_read (o := .getCheckpoint run.runId) rfl fun _ _ => wp_ret ⟨_, rfl, rfl, rfl⟩
  · rintro s st' ⟨s', hs, hfound⟩
    cases hs
    exact wp_ret ⟨_, rfl, hfound⟩
  · rintro x st' ⟨s', hx, -⟩
    cases hx

/-! ## Which closed runs are preserved -/

/-- A closed run without a proposal is refused. -/
theorem validateSnapshot_without {request : RecoveryRequest} {s : Snapshot}
    (hclosed : s.run.state ∈ TERMINAL_WORKFLOW_STATES) (hp : s.proposal = none) :
    ∃ failure, validateSnapshot request s = .ok (some failure) := by
  have hoptional : proposalOptional s.run.state = false := by
    revert hclosed
    cases s.run.state <;> decide
  refine ⟨_, if_pos ⟨?_, ?_⟩⟩
  · rw [hoptional]
    rfl
  · rw [hp]
    rfl

/-- The checkpoint check passes when the checkpoint names the proposal or none. -/
theorem validateCheckpoint_closed {run : Run} {p : ActionProposal} {c : Checkpoint}
    (hclosed : run.state ∈ TERMINAL_WORKFLOW_STATES) (hc : c.runId = run.runId) :
    validateCheckpoint run (some p) c = .ok none ↔ CheckpointNames c p := by
  have hwaiting : ¬ (run.state = .awaitingApproval ∧ c.lastSafeState ≠ .awaitingApproval) := by
    rintro ⟨h, -⟩
    rw [h] at hclosed
    revert hclosed
    decide
  unfold validateCheckpoint CheckpointNames
  rw [if_neg (not_not.mpr hc)]
  dsimp only
  rcases c.resumeMetadata.lookup "proposal_id" with _ | j
  · simp [hwaiting]
  · cases j <;> simp [hwaiting, Json.hashable, Json.str?]

/-- The snapshot of a closed run with a proposal passes when it is recognized. -/
theorem validateSnapshot_closed {S : Store} {request : RecoveryRequest} {run : Run}
    {p : ActionProposal} (hclosed : run.state ∈ TERMINAL_WORKFLOW_STATES)
    (hsuccess : run.state ≠ .successWithEvidence) (hrequest : request.proposalId = some p.proposalId)
    (hp : S.proposals.get p.proposalId = some p) (hrun : p.runId = run.runId) :
    validateSnapshot request (snapshotOf S run p) = .ok none ↔ Recognized S request run := by
  have hfound : request.proposalId.bind S.proposals.get = some p := by
    rw [hrequest]
    exact hp
  have hmatch : (p.runId != run.runId || some p.proposalId != request.proposalId) = false := by
    rw [hrun, hrequest]
    simp
  have hrecognized : Recognized S request run ↔ match S.checkpoints.get run.runId with
      | none => run.state ≠ .noActionRequired ∧ run.state ≠ .recommendationOnly
      | some c => CheckpointNames c p := by
    unfold Recognized
    rw [hfound]
    simp
  rw [hrecognized]
  unfold validateSnapshot snapshotOf
  rw [if_neg (by simp), if_neg (by simp [hmatch])]
  dsimp only
  rcases hc : S.checkpoints.get run.runId with _ | c
  · -- without a checkpoint the state decides
    dsimp only
    revert hclosed hsuccess
    cases run.state <;> decide
  · have hkey := Table.key_of_get hc
    exact validateCheckpoint_closed hclosed hkey

/-- A closed run that is not a success goes to the last branch. -/
theorem recoverSnapshot_closed (cfg : RecoveryConfig) {S : Store} {run : Run} {p : ActionProposal}
    (hclosed : run.state ∈ TERMINAL_WORKFLOW_STATES)
    (hsuccess : run.state ≠ .successWithEvidence) :
    recoverSnapshot cfg (snapshotOf S run p) = outcome run (some p) terminalVerdict := by
  have hoptional : ¬ proposalOptional run.state = true := by
    revert hclosed
    cases run.state <;> decide
  unfold recoverSnapshot snapshotOf
  rw [if_neg hoptional]
  dsimp only
  unfold recoverProposal
  dsimp only
  revert hclosed hsuccess
  generalize run.state = state
  intro hclosed hsuccess
  cases state <;>
    first | exact absurd hclosed (by decide) | exact absurd rfl hsuccess | rfl

/-- Recovery of a closed run without a proposal is refused. -/
theorem wp_recover_without (cfg : RecoveryConfig) {request : RecoveryRequest} {run : Run}
    (hrun : st.world.store.runs.get request.runId = some run)
    (hclosed : run.state ∈ TERMINAL_WORKFLOW_STATES) (hrequest : request.proposalId = none) :
    e.Wp who (recover cfg request) (fun o _ => Refused o) st := by
  unfold recover
  refine wp_try (wp_readSnapshot_without hrun hrequest) ?_ ?_
  · rintro found st1 ⟨s, hs, hsrun, hsnone⟩
    cases hs
    obtain ⟨failure, hfailure⟩ : ∃ failure, validateSnapshot request s = .ok (some failure) :=
      validateSnapshot_without (hsrun ▸ hclosed) hsnone
    dsimp only
    rw [hfailure]
    exact wp_auditedFailure_refused s.run s.proposal failure
  · rintro x st1 ⟨s, hx, -⟩
    cases hx

/-- **Which closed runs are preserved.**  Recovery of a run closed without success, asked for by the
    run and its stored proposal, reports it closed and appends one audit event if and only if the
    run has a stored proposal, its checkpoint does not name another, and the event fits. -/
theorem terminal_preserved_iff (e : Environment) (who : ι) (st : Solo ι) (cfg : RecoveryConfig)
    (request : RecoveryRequest) (run : Run)
    (hrun : st.world.store.runs.get request.runId = some run)
    (hclosed : run.state ∈ TERMINAL_WORKFLOW_STATES) (hsuccess : run.state ≠ .successWithEvidence)
    (hrequest : Names st.world.store request) :
    e.Wp who (recover cfg request) (fun o st' =>
      Preserved st.world.store run.runId o st'.world.store ↔
        Recognized st.world.store request run ∧
          st.world.store.AuditRoom run.runId (e.ids (st.tick + 6))) st := by
  have hkey : run.runId = request.runId := Table.key_of_get hrun
  rcases hproposal : request.proposalId with _ | proposalId
  · have hnot : ¬ Recognized st.world.store request run := by
      rintro ⟨p, hp, -⟩
      rw [hproposal] at hp
      cases hp
    refine (wp_recover_without cfg hrun hclosed hproposal).mono fun o st' h => ?_
    exact iff_of_false h.not_preserved fun h => hnot h.1
  · obtain ⟨p, hp, hprun⟩ : ∃ p, st.world.store.proposals.get proposalId = some p ∧
        p.runId = request.runId := by
      unfold Names at hrequest
      rwa [hproposal] at hrequest
    have hid : p.proposalId = proposalId := Table.key_of_get hp
    subst hid
    have hvalid := validateSnapshot_closed (S := st.world.store) hclosed hsuccess hproposal hp
      (hprun.trans hkey.symm)
    unfold recover
    refine wp_try (wp_readSnapshot_found hrun hproposal hp) ?_ ?_
    · rintro found st1 ⟨hfound, hst1, htick⟩
      cases hfound
      dsimp only
      rcases hv : validateSnapshot request (snapshotOf st.world.store run p) with x | failure
      · -- an unhashable reference in the checkpoint raises
        refine wp_raise (iff_of_false (Refused.not_preserved fun outcome ho => ?_) fun h => ?_)
        · cases ho
        · rw [hvalid.mpr h.1] at hv
          cases hv
      rcases failure with _ | failure
      · have hrecognized := hvalid.mp hv
        change e.Wp who (recoverSnapshot cfg _) _ st1
        rw [recoverSnapshot_closed cfg hclosed hsuccess]
        refine (wp_outcome_terminal run (some p)).mono fun o st' h => ?_
        rw [hst1, htick] at h
        exact h.trans ⟨fun hroom => ⟨hrecognized, hroom⟩, fun h => h.2⟩
      · refine (wp_auditedFailure_refused run (some p) failure).mono fun o st' h => ?_
        refine iff_of_false h.not_preserved fun h => ?_
        rw [hvalid.mpr h.1] at hv
        cases hv
    · rintro x st1 ⟨hx, -⟩
      cases hx

end RecoveryCoordinator

end Terminal

/-! ## Two sample runs -/

namespace Sample

open RecoveryCoordinator

attribute [local instance] digest

/-- A run whose budget ran out during its investigation, and a run that the policy denied after its
    proposal. -/
def closedRuns : List Op := [
  .createRun run,
  .transitionRun (uid 1) .investigating .received 1 0 none none,
  .transitionRun (uid 1) .budgetExhausted .investigating 2 0 none none,
  .createRun { run with runId := uid 5 },
  .transitionRun (uid 5) .investigating .received 1 0 none none,
  .transitionRun (uid 5) .evidenceReady .investigating 2 0 none none,
  .createProposal { proposal with runId := uid 5, state := .proposed },
  .transitionRun (uid 5) .deniedByPolicy .evidenceReady 3 0 none none]

def closedCalls (i : Nat) : Call := .operation (closedRuns.getD i (.getRun (uid 1)))

/-- The configuration after the first `n` of these operations. -/
def closed (n : Nat) : Config Nat (World Nat) Req Req.Ans PyExc Reply :=
  play (fun _ => environment 0 acknowledges) (List.range n) (CloudOpsAgent.start closedCalls)

/-- The run that was denied after its proposal is preserved. -/
theorem terminal_preserved_sample : ∃ run : Run,
    (closed 8).world.store.runs.get (uid 5) = some run ∧ run.state = .deniedByPolicy ∧
    (environment 20 acknowledges).Wp 8 (recover recovery.config ⟨uid 5, some (uid 4)⟩)
      (fun o st' => Preserved (closed 8).world.store run.runId o st'.world.store)
      ⟨(closed 8).world, 0⟩ := by
  have hrun : ((closed 8).world.store.runs.get (uid 5)).any
      (fun r => decide (r.state = .deniedByPolicy)) = true := by decide +kernel
  have hproposal : ((closed 8).world.store.proposals.get (uid 4)).any
      (fun p => decide (p.runId = uid 5)) = true := by decide +kernel
  have hcheckpoints : (closed 8).world.store.checkpoints.keys = ∅ := by decide +kernel
  have hevents : (closed 8).world.store.auditEvents.keys = ∅ := by decide +kernel
  obtain ⟨run, hget, hstate⟩ := (Option.any_eq_true ..).mp hrun
  obtain ⟨p, hp, hprun⟩ := (Option.any_eq_true ..).mp hproposal
  have hdenied : run.state = .deniedByPolicy := of_decide_eq_true hstate
  have hclosed : run.state ∈ TERMINAL_WORKFLOW_STATES := by
    rw [hdenied]
    decide
  have hsuccess : run.state ≠ .successWithEvidence := by
    rw [hdenied]
    decide
  have hnames : Names (closed 8).world.store ⟨uid 5, some (uid 4)⟩ :=
    ⟨p, hp, of_decide_eq_true hprun⟩
  refine ⟨run, hget, hdenied, ?_⟩
  refine (terminal_preserved_iff (environment 20 acknowledges) 8 ⟨(closed 8).world, 0⟩
    recovery.config ⟨uid 5, some (uid 4)⟩ run hget hclosed hsuccess hnames).mono
      fun o st' h => h.mpr ⟨⟨p, hp, ?_⟩, Table.get_of_keys_empty hevents _, ?_⟩
  · have hnone := Table.get_of_keys_empty hcheckpoints run.runId
    rw [hnone, hdenied]
    exact ⟨by decide, by decide⟩
  · simp only [Store.countAuditEvents, Table.countKeys, hevents]
    simp [MAX_AUDIT_EVENTS_PER_RUN]

/-- The run that was closed before any proposal is refused. -/
theorem closed_before_proposal : ∃ (c : Config Nat (World Nat) Req Req.Ans PyExc Reply) (run : Run),
    Reachable closedCalls c ∧ c.world.store.runs.get (uid 1) = some run ∧
    run.state ∈ TERMINAL_WORKFLOW_STATES ∧ run.state ≠ .successWithEvidence ∧
    Names c.world.store ⟨uid 1, none⟩ ∧
    ¬ (environment 20 acknowledges).Wp 8 (recover recovery.config ⟨uid 1, none⟩)
      (fun o st' => Preserved c.world.store run.runId o st'.world.store) ⟨c.world, 0⟩ := by
  have hrun : ((closed 3).world.store.runs.get (uid 1)).any
      (fun r => decide (r.state = .budgetExhausted)) = true := by decide +kernel
  have hproposals : (closed 3).world.store.proposals.keys = ∅ := by decide +kernel
  obtain ⟨run, hget, hstate⟩ := (Option.any_eq_true ..).mp hrun
  have hexhausted : run.state = .budgetExhausted := of_decide_eq_true hstate
  have hclosed : run.state ∈ TERMINAL_WORKFLOW_STATES := by
    rw [hexhausted]
    decide
  refine ⟨closed 3, run, reachable_play .., hget, hclosed, ?_, ?_, fun h => ?_⟩
  · rw [hexhausted]
    decide
  · intro proposalId p hp
    rw [Table.get_of_keys_empty hproposals] at hp
    cases hp
  · have hrefused : (environment 20 acknowledges).Wp 8 (recover recovery.config ⟨uid 1, none⟩)
        (fun o _ => RecoveryCoordinator.Refused o) ⟨(closed 3).world, 0⟩ :=
      wp_recover_without recovery.config hget hclosed rfl
    exact Refused.not_preserved hrefused h

end Sample

end CloudOpsAgent
