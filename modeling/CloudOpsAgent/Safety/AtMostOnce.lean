/-
  AT-MOST-ONCE MUTATION: the private executor is called at most once for a run, and only on an
  approval of exactly what it is told to do.

  The argument has two halves.

  * The transition table lets a run enter `EXECUTING` from `APPROVED` only and never leads back, so
    at most one client ever moves a given run into `EXECUTING` (`movers`).

  * `execute` calls the executor only after its own transition into `EXECUTING` succeeded — a
    transition whose outcome it does not know counts as failed — and calls it once.  No other flow
    calls it at all (`Req.nonStop`).

  Both are in `atMostOnce`, the discipline every call is checked against one by one: an executor
  call is allowed to the mover of the run, if it has made none yet.
-/
import CloudOpsAgent.Flow.Requests

namespace CloudOpsAgent

open ClientProg ClientProg.Prog

section AtMostOnce

variable [Sha256] {ι : Type}

/-! ## Who moved the run, who called the executor -/

/-- The run an operation moves into `EXECUTING`. -/
def Op.entersExecuting : Op → Option UUID
  | .transitionRun runId .executing .. => some runId
  | _ => none

/-- The clients that moved run `r` into `EXECUTING`, in order. -/
def movers (r : UUID) (log : List (Event ι)) : List ι :=
  log.filterMap fun
    | .stored who op _ _ => if op.entersExecuting = some r then some who else none
    | _ => none

/-- The clients that called the executor for run `r`, in order. -/
def callers (r : UUID) (log : List (Event ι)) : List ι :=
  log.filterMap fun
    | .executed who command _ => if command.runId = r then some who else none
    | _ => none

theorem movers_append (r : UUID) (log log' : List (Event ι)) :
    movers r (log ++ log') = movers r log ++ movers r log' := List.filterMap_append

theorem callers_append (r : UUID) (log log' : List (Event ι)) :
    callers r (log ++ log') = callers r log ++ callers r log' := List.filterMap_append

theorem movers_mono {r : UUID} {log log' : List (Event ι)} (h : log <+: log') {i : ι}
    (hi : i ∈ movers r log) : i ∈ movers r log' := by
  obtain ⟨t, rfl⟩ := h
  rw [movers_append]
  exact List.mem_append_left _ hi

omit [Sha256] in
theorem eq_of_mem_of_length_le_one {l : List ι} (h : l.length ≤ 1) {i j : ι} (hi : i ∈ l)
    (hj : j ∈ l) : i = j := by
  match l, h with
  | [k], _ => rw [List.mem_singleton.mp hi, List.mem_singleton.mp hj]

/-- The repository holds a positive decision on exactly what the command says. -/
def Authorized (s : Store) (c : StopExecutionCommand) : Prop :=
  ∃ p a, s.proposals.get c.proposalId = some p ∧ s.approvals.get c.proposalId = some a ∧
    a.decision = .approved ∧ a.Binds p ∧ p.runId = c.runId ∧ p.action = c.action ∧
    p.target = c.target ∧ p.evidenceHash = c.evidenceHash

/-- Every decision binds the proposal it is filed under. -/
def Store.ApprovalsBound (s : Store) : Prop :=
  ∀ k a, s.approvals.get k = some a → ∃ p, s.proposals.get k = some p ∧ a.Binds p

omit [Sha256] in
theorem Approval.Binds.sameContent {a : Approval} {p q : ActionProposal} (h : a.Binds p)
    (hpq : p.SameContent q) : a.Binds q := by
  obtain ⟨h1, h2, h3, h4, h5⟩ := h
  obtain ⟨k1, k2, k3, k4, -, -, k5, -⟩ := hpq.fields
  exact ⟨h1.trans k1.symm, h2.trans k2.symm, h3.trans k3.symm, h4.trans k4.symm, h5.trans k5.symm⟩

theorem Write.approval {op : Op} {s s' : Store} (h : Write s op s') {k : UUID} {a : Approval}
    (ha : s'.approvals.get k = some a) :
    s.approvals.get k = some a ∨ ∃ p, s.proposals.get k = some p ∧ a.Binds p := by
  cases h with
  | createApproval hp hs hb hn =>
    obtain ⟨rfl, rfl⟩ | ⟨-, ha⟩ := Table.get_put_cases ha
    · exact .inr ⟨_, hp, hb⟩
    · exact .inl ha
  | _ => exact .inl ha

theorem Write.approvalsBound {op : Op} {s s' : Store} (h : Write s op s')
    (hs : s.ApprovalsBound) : s'.ApprovalsBound := by
  intro k a ha
  obtain ⟨p, hp, hb⟩ : ∃ p, s.proposals.get k = some p ∧ a.Binds p := by
    obtain ha | h := h.approval ha
    · exact hs k a ha
    · exact h
  obtain ⟨q, hq, hpq⟩ := h.evolves.proposals k p hp
  exact ⟨q, hq, hb.sameContent hpq⟩

theorem Authorized.evolves {s s' : Store} (h : s.Evolves s') {c : StopExecutionCommand}
    (hc : Authorized s c) : Authorized s' c := by
  obtain ⟨p, a, hp, ha, hd, hb, h1, h2, h3, h4⟩ := hc
  obtain ⟨q, hq, hpq⟩ := h.proposals _ p hp
  obtain ⟨-, k1, k2, k3, -, -, k4, -⟩ := hpq.fields
  exact ⟨q, a, hq, h.approval ha, hd, hb.sameContent hpq, k1.trans h1, k2.trans h2, k3.trans h3,
    k4.trans h4⟩

/-- Entering `EXECUTING` leaves the states before it, for good. -/
theorem Write.entersExecuting {op : Op} {s s' : Store} (h : Write s op s') {r : UUID}
    (hr : op.entersExecuting = some r) :
    (∃ run, s.runs.get r = some run ∧ run.state.beforeExecuting) ∧
      ∃ run, s'.runs.get r = some run ∧ run.state.beforeExecuting = false := by
  cases h with
  | @transitionRun current run next _ _ _ hc hd hv ht =>
    cases next <;> cases hr
    obtain ⟨hn, -, hs, -, -, hid, -⟩ := transitionRun_ok ht
    refine ⟨⟨current, hc, ?_⟩, run, ?_, ?_⟩
    · rw [approved_of_executing_allowed hn]
      rfl
    · rw [← hid]
      exact Table.get_put_self _ _
    · rw [hs]
      rfl
  | unchanged h => cases op <;> first | cases hr | cases h
  | _ => cases hr

/-! ## The discipline -/

/-- What holds of every reachable world. -/
structure AtMostOnceInv (w : World ι) : Prop where
  bound : w.store.ApprovalsBound
  moved : ∀ r i, i ∈ movers r w.log →
    ∃ run, w.store.runs.get r = some run ∧ run.state.beforeExecuting = false
  movedOnce : ∀ r, (movers r w.log).length ≤ 1
  callerMoved : ∀ r i, i ∈ callers r w.log → i ∈ movers r w.log
  calledOnce : ∀ r, (callers r w.log).length ≤ 1
  authorized : ∀ i c s, .executed i c s ∈ w.log → Authorized s c

theorem AtMostOnceInv.initial : AtMostOnceInv (World.initial : World ι) where
  bound k a h := by simp [World.initial] at h
  moved r i h := by simp [World.initial, movers] at h
  movedOnce r := by simp [World.initial, movers]
  callerMoved r i h := by simp [World.initial, callers] at h
  calledOnce r := by simp [World.initial, callers]
  authorized i c s h := by simp [World.initial] at h

variable {w : World ι}

theorem movers_applied (r : UUID) (i : ι) (op : Op) (s : Store) :
    movers r (w.applied i op s).log =
      movers r w.log ++ if op.entersExecuting = some r then [i] else [] := by
  rw [World.applied_log, movers_append]
  congr 1
  by_cases h : op.entersExecuting = some r <;> simp [movers, h]

theorem callers_applied (r : UUID) (i : ι) (op : Op) (s : Store) :
    callers r (w.applied i op s).log = callers r w.log := by
  rw [World.applied_log, callers_append]
  simp [callers]

theorem AtMostOnceInv.applied (hw : AtMostOnceInv w) {i : ι} {op : Op} {s : Store}
    (h : Write w.store op s) : AtMostOnceInv (w.applied i op s) where
  bound := h.approvalsBound hw.bound
  moved r j hj := by
    rw [movers_applied, List.mem_append] at hj
    obtain hj | hj := hj
    · obtain ⟨run, hrun, hs⟩ := hw.moved r j hj
      obtain ⟨run', hrun', hev⟩ := h.evolves.runs _ _ hrun
      exact ⟨run', hrun', Bool.eq_false_iff.mpr fun hb => by simp [hev.beforeExecuting hb] at hs⟩
    · split at hj
      · rename_i he
        exact (h.entersExecuting he).2
      · cases hj
  movedOnce r := by
    rw [movers_applied]
    split
    · rename_i he
      -- a run that is entered now was before `EXECUTING`, so nobody has moved it yet
      obtain ⟨run, hrun, hb⟩ := (h.entersExecuting he).1
      have : movers r w.log = [] := List.eq_nil_iff_forall_not_mem.mpr fun j hj => by
        obtain ⟨run', hrun', hs⟩ := hw.moved r j hj
        rw [hrun] at hrun'
        cases hrun'
        rw [hs] at hb
        cases hb
      simp [this]
    · simpa using hw.movedOnce r
  callerMoved r j hj := by
    rw [callers_applied] at hj
    exact movers_mono (List.prefix_append _ _) (hw.callerMoved r j hj)
  calledOnce r := by
    rw [callers_applied]
    exact hw.calledOnce r
  authorized j c t hj := by
    rw [World.applied_log, List.mem_append] at hj
    obtain hj | hj := hj
    · exact hw.authorized j c t hj
    · simp at hj

theorem AtMostOnceInv.executed (hw : AtMostOnceInv w) {i : ι} {c : StopExecutionCommand}
    (hi : i ∈ movers c.runId w.log) (hn : ∀ r, i ∉ callers r w.log)
    (ha : Authorized w.store c) : AtMostOnceInv (w.logged (.executed i c w.store)) where
  bound := hw.bound
  moved r j hj := by
    refine hw.moved r j ?_
    simpa [movers_append, movers] using hj
  movedOnce r := by simpa [movers_append, movers] using hw.movedOnce r
  callerMoved r j hj := by
    rw [World.logged_log, callers_append, List.mem_append] at hj
    refine movers_mono (List.prefix_append _ _) ?_
    obtain hj | hj := hj
    · exact hw.callerMoved r j hj
    · by_cases hr : c.runId = r
      · subst hr
        simp [callers] at hj
        subst hj
        exact hi
      · simp [callers, hr] at hj
  calledOnce r := by
    rw [World.logged_log, callers_append]
    by_cases hr : c.runId = r
    · subst hr
      -- whoever called before moved the run, and the only mover has made no call
      have : callers c.runId w.log = [] := List.eq_nil_iff_forall_not_mem.mpr fun j hj => by
        obtain rfl := eq_of_mem_of_length_le_one (hw.movedOnce _) hi (hw.callerMoved _ _ hj)
        exact hn _ hj
      rw [this, List.nil_append]
      simp [callers]
    · simpa [callers, hr] using hw.calledOnce r
  authorized j c' s hj := by
    rw [World.logged_log, List.mem_append] at hj
    obtain hj | hj := hj
    · exact hw.authorized j c' s hj
    · simp only [List.mem_singleton, Event.executed.injEq] at hj
      obtain ⟨-, rfl, rfl⟩ := hj
      exact ha

theorem AtMostOnceInv.inspected (hw : AtMostOnceInv w) (i : ι) (id : String)
    (identity : InvestigationIdentity) (x : ControlResult InstanceInspection) :
    AtMostOnceInv (w.logged (.inspected i id identity x)) where
  bound := hw.bound
  moved r j hj := hw.moved r j (by simpa [movers_append, movers] using hj)
  movedOnce r := by simpa [movers_append, movers] using hw.movedOnce r
  callerMoved r j hj := by
    rw [World.logged_log, callers_append] at hj
    refine movers_mono (List.prefix_append _ _) (hw.callerMoved r j ?_)
    simpa [callers] using hj
  calledOnce r := by simpa [callers_append, callers] using hw.calledOnce r
  authorized j c s hj := hw.authorized j c s (by simpa using hj)

/-- Who may call the executor: the client that moved the command's run into `EXECUTING`, once, with
    an authorized command. -/
def atMostOnceAllowed (i : ι) (w : World ι) : Req → Prop
  | .stop c => i ∈ movers c.runId w.log ∧ (∀ r, i ∉ callers r w.log) ∧ Authorized w.store c
  | _ => True

/-- The discipline of at-most-once mutation: others never make calls in a client's name. -/
def atMostOnce : Discipline (answers (ι := ι)) where
  inv := AtMostOnceInv
  evolve := Grows
  rely i w w' := Grows w w' ∧ ∀ r, i ∈ callers r w'.log → i ∈ callers r w.log
  allowed := atMostOnceAllowed
  evolve_trans h h' := h.trans h'
  rely_refl i w := ⟨.refl w, fun _ => id⟩
  rely_trans i _ _ _ h h' := ⟨h.1.trans h'.1, fun r hr => h.2 r (h'.2 r hr)⟩
  evolve_of_rely h := h.1
  step {i w r x w'} hw ha hx := by
    refine ⟨?_, .of_answers hx, fun j hj => ⟨.of_answers hx, fun r' hr' => ?_⟩⟩
    · cases r with
      | store op =>
        obtain rfl | ⟨s, hs, rfl⟩ := answers_store hx
        · exact hw
        · exact hw.applied hs
      | inspect id identity => cases hx; exact hw.inspected ..
      | stop c => cases hx; exact hw.executed ha.1 ha.2.1 ha.2.2
      | _ => cases hx; exact hw
    · cases r with
      | store op =>
        obtain rfl | ⟨s, hs, rfl⟩ := answers_store hx
        · exact hr'
        · rwa [callers_applied] at hr'
      | inspect id identity =>
        cases hx
        simpa [callers_append, callers] using hr'
      | stop c =>
        cases hx
        rw [World.logged_log, callers_append, List.mem_append] at hr'
        refine hr'.resolve_right fun hr' => ?_
        simp only [callers, List.mem_filterMap, List.mem_singleton, exists_eq_left] at hr'
        split at hr'
        · exact hj (Option.some.inj hr').symm
        · cases hr'
      | _ => cases hx; exact hr'

theorem atMostOnceAllowed_nonStop (i : ι) (w : World ι) (r : Req) (hr : Req.nonStop r) :
    atMostOnceAllowed i w r := by
  cases r <;> trivial

instance : Permissive (atMostOnce (ι := ι)) where
  allowed i w r hr := atMostOnceAllowed_nonStop i w r (Req.nonStop_of_plain r hr)

/-! ## `execute` keeps the discipline -/

namespace StopSandboxInstanceCoordinator

variable {i : ι}

/-- What the prerequisites of an execution are about. -/
def Approved (s : Store) (proposal : ActionProposal) (approval : Approval) : Prop :=
  approval.decision = .approved ∧ s.approvals.get proposal.proposalId = some approval ∧
    ∃ p, s.proposals.get proposal.proposalId = some p ∧ proposal.SameContent p

theorem Approved.evolves {s s' : Store} (h : s.Evolves s') {proposal : ActionProposal}
    {approval : Approval} (ha : Approved s proposal approval) : Approved s' proposal approval := by
  obtain ⟨hd, ha, p, hp, hsame⟩ := ha
  obtain ⟨q, hq, hpq⟩ := h.proposals _ p hp
  exact ⟨hd, h.approval ha, q, hq, hsame.trans hpq⟩

/-- The records `_require_approved_records` returns belong together. -/
theorem requireApprovedRecords_safe (proposalId : UUID) (w : World ι) :
    Safe atMostOnce i (requireApprovedRecords proposalId)
      (fun o w => ∀ x, o = .ok x → x.1.runId = x.2.1.runId ∧ Approved w.store x.2.1 x.2.2) w := by
  have raised {w : World ι} {e : PyExc} : Safe atMostOnce i
      (.raise e : Flow (Run × ActionProposal × Approval))
      (fun o w => ∀ x, o = .ok x → x.1.runId = x.2.1.runId ∧ Approved w.store x.2.1 x.2.2) w :=
    safe_raise fun _ _ _ x hx => by cases hx
  refine safe_read_bind (o := .getProposal proposalId) (·.proposals.get proposalId) (fun _ => rfl) rfl (fun w1 _ _ => ?_)
    fun e _ _ _ x hx => by cases hx
  cases hp : w1.store.proposals.get proposalId with
  | none => exact raised
  | some proposal =>
    obtain rfl := Table.key_of_get hp
    dsimp only
    split
    · exact raised
    refine safe_read_bind (o := .getApproval proposal.proposalId)
      (·.approvals.get proposal.proposalId) (fun _ => rfl) rfl
      (fun w2 h2 _ => ?_) fun e _ _ _ x hx => by cases hx
    cases ha : w2.store.approvals.get proposal.proposalId with
    | none => exact raised
    | some approval =>
      dsimp only
      split
      · exact raised
      · rename_i hd
        refine safe_read_bind (o := .getRun proposal.runId) (·.runs.get proposal.runId)
          (fun _ => rfl) rfl
          (fun w3 h3 _ => ?_) fun e _ _ _ x hx => by cases hx
        cases hr : w3.store.runs.get proposal.runId with
        | none => exact raised
        | some run =>
          dsimp only
          split
          · exact raised
          · refine safe_ret fun w4 h4 _ x hx => ?_
            cases hx
            obtain ⟨p, hp, hsame⟩ := h2.1.proposals _ _ hp
            have h2' : Approved w2.store proposal approval := ⟨not_not.mp hd, ha, p, hp, hsame⟩
            exact ⟨Table.key_of_get hr, (h2'.evolves h3.1).evolves h4.1⟩

theorem loadExecutionPrerequisites_safe (proposalId : UUID) (w : World ι) :
    Safe atMostOnce i (loadExecutionPrerequisites proposalId)
      (fun o w => ∀ x, o = .ok x → x.run.runId = x.proposal.runId ∧
        Approved w.store x.proposal x.approval) w := by
  refine .bind (requireApprovedRecords_safe proposalId w) (fun ⟨run, proposal, approval⟩ w1 _ _ h => ?_)
    fun e _ _ _ _ x hx => by cases hx
  obtain ⟨hrun, happ⟩ := h _ rfl
  have raised {w : World ι} {e : PyExc} : Safe atMostOnce i
      (.raise e : Flow ApprovedActionPrerequisites) (fun o w => ∀ x, o = .ok x →
        x.run.runId = x.proposal.runId ∧ Approved w.store x.proposal x.approval) w :=
    safe_raise fun _ _ _ x hx => by cases hx
  refine safe_read_bind (o := .getIdempotency (deriveIdempotencyKey proposal))
    (·.idempotency.get (deriveIdempotencyKey proposal)) (fun _ => rfl) rfl
    (fun w2 h2 _ => ?_) fun e _ _ _ x hx => by cases hx
  rcases w2.store.idempotency.get (deriveIdempotencyKey proposal) with _ | record
  · exact raised
  dsimp only
  split
  · exact raised
  refine safe_read_bind (o := .getCheckpoint run.runId) (·.checkpoints.get run.runId)
    (fun _ => rfl) rfl
    (fun w3 h3 _ => ?_) fun e _ _ _ x hx => by cases hx
  rcases w3.store.checkpoints.get run.runId with _ | checkpoint
  · exact raised
  dsimp only
  split
  · exact raised
  split
  · exact raised
  refine safe_ret fun w4 h4 _ x hx => ?_
  cases hx
  exact ⟨hrun, ((happ.evolves h2.1).evolves h3.1).evolves h4.1⟩

/-- A command built from approved prerequisites is authorized. -/
theorem Approved.authorized {s : Store} (hs : s.ApprovalsBound) {p : ApprovedActionPrerequisites}
    (hr : p.run.runId = p.proposal.runId) (h : Approved s p.proposal p.approval) (t : Time) :
    Authorized s (buildStopExecutionCommand p t) := by
  obtain ⟨hd, ha, q, hq, hsame⟩ := h
  obtain ⟨q', hq', hb⟩ := hs _ _ ha
  rw [hq] at hq'
  cases hq'
  obtain ⟨-, k1, k2, k3, -, -, k4, -⟩ := hsame.fields
  exact ⟨q, p.approval, hq, ha, hd, hb, k1.trans hr.symm, k2, k3, k4⟩

/-- **Claiming**: a client that got through it is the mover of the command's run, and the command is
    authorized. -/
theorem claim_safe (proposal : ActionProposal) (proposalId : UUID) (w : World ι) :
    Safe atMostOnce i (claim proposal proposalId) (fun o w => ∀ c, o = .ok c →
      i ∈ movers c.command.runId w.log ∧ Authorized w.store c.command) w := by
  have raised {e : PyExc} {w : World ι} : ∀ c, (.error e : Except PyExc Claimed) = .ok c →
      i ∈ movers c.command.runId w.log ∧ Authorized w.store c.command := fun c hc => by cases hc
  refine safe_clock_bind fun registeredAt => ?_
  refine .bind (safe_plain (registerApprovedAction_plain ..)) (fun record w1 h1 _ _ => ?_)
    fun e w' _ _ _ => raised
  refine .bind (loadExecutionPrerequisites_safe proposalId w1) (fun p w2 h2 _ hp => ?_)
    fun e w' _ _ _ => raised
  obtain ⟨hrun, happ⟩ := hp p rfl
  refine safe_clock_bind fun updatedAt => ?_
  refine safe_op_bind (fun _ _ _ => trivial) (fun run s w3 h3 _ hs h3' hI => ?_)
    fun e w' _ _ => raised
  -- this client's own transition succeeded
  have hmoved : i ∈ movers p.run.runId (w3.applied i (.transitionRun p.run.runId .executing .approved
      p.run.version updatedAt none none) s).log := by
    rw [movers_applied]
    exact List.mem_append_right _ (by simp [Op.entersExecuting])
  have hauth := (happ.evolves h3'.1).authorized hI.bound hrun
  refine safe_clock_bind fun issuedAt => ?_
  refine .bind (safe_plain (appendEvent_plain ..)) (fun _ w4 h4 _ _ => ?_) fun e w' _ _ _ => raised
  refine safe_ret fun w5 h5 _ c hc => ?_
  cases hc
  exact ⟨movers_mono (h4.trans h5).2 hmoved, (hauth issuedAt).evolves (h4.trans h5).1⟩

/-- Nothing but an executor call makes a client a caller. -/
theorem notCaller_frame {p : Flow α} (hp : p.Issues Req.nonStop)
    {Q : Except PyExc α → World ι → Prop} {w : World ι} (hw : ∀ r, i ∉ callers r w.log)
    (h : Safe atMostOnce i p Q w) :
    Safe atMostOnce i p (fun o w => (∀ r, i ∉ callers r w.log) ∧ Q o w) w := by
  refine Safe.frame (D := atMostOnce) (P := Req.nonStop) (F := fun w => ∀ r, i ∉ callers r w.log)
    (fun w w' hw h r hr => h r (hw.2 r hr)) (fun w r x w' hr hx h => ?_) hp hw h
  cases r with
  | store op =>
    obtain rfl | ⟨s, hs, rfl⟩ := answers_store hx
    · exact h
    · intro r hr
      rw [callers_applied] at hr
      exact h r hr
  | inspect id identity =>
    cases hx
    intro r hr
    exact h r (by simpa [callers_append, callers] using hr)
  | stop c => cases hr
  | _ => cases hx; exact h

theorem callExecutor_safe (proposalId : UUID) (c : Claimed) {w : World ι}
    (hmoved : i ∈ movers c.command.runId w.log) (hauth : Authorized w.store c.command)
    (hnone : ∀ r, i ∉ callers r w.log) :
    Safe atMostOnce i (callExecutor proposalId c) (fun _ _ => True) w := by
  refine safe_try (R := fun _ _ => True) ?_ (fun ack _ _ _ _ => safe_plain
    (recordAcknowledgement_plain ..)) (fun e h _ _ _ _ he => ?_) fun _ _ _ _ => trivial
  · refine .call (fun w' hw _ hrely => ?_) fun x w' w'' _ _ _ _ _ =>
      safe_ofExcept fun _ _ _ => trivial
    exact ⟨movers_mono hw.2 hmoved, fun r hr => hnone r (hrely.2 r hr), hauth.evolves hw.1⟩
  · cases he
    exact safe_plain (persistExecutionFailure_plain ..)

/-- `execute` keeps the discipline from any world in which it has not called the executor yet. -/
theorem execute_safe (proposalId : UUID) {w : World ι} (hnone : ∀ r, i ∉ callers r w.log) :
    Safe atMostOnce i (execute proposalId) (fun _ _ => True) w := by
  have op_nonStop (o : Op) : (Flow.op o).Issues Req.nonStop := Flow.issues_op.mpr trivial
  refine safe_catching (notCaller_frame (op_nonStop _) hnone (safe_plain (Flow.issues_op.mpr rfl)))
    (fun found w1 _ _ h1 => ?_) (fun _ _ _ => safe_plain trivial) fun _ _ _ _ => trivial
  rcases found with _ | proposal
  · exact safe_plain trivial
  refine safe_catching (notCaller_frame (op_nonStop _) h1.1 (safe_plain (Flow.issues_op.mpr rfl)))
    (fun found w2 _ _ h2 => ?_) (fun _ _ _ => safe_plain trivial) fun _ _ _ _ => trivial
  rcases found with _ | existing
  · refine safe_try (notCaller_frame ((claim_plain ..).mono Req.nonStop_of_plain) h2.1
      (claim_safe proposal proposalId w2)) (fun c w3 _ _ h3 => ?_)
      (fun e h _ _ _ _ he => safe_plain (claimHandler_plain he)) fun _ _ _ _ => trivial
    exact callExecutor_safe _ c (h3.2 c rfl).1 (h3.2 c rfl).2 h3.1
  · exact safe_plain (reconcileExisting_plain ..)

end StopSandboxInstanceCoordinator

/-! ## The system keeps it -/

theorem Call.safe_atMostOnce (call : Call) (i : ι) :
    Safe atMostOnce i call.flow (fun _ _ => True) World.initial := by
  have other {p : Flow Reply} (hp : p.Issues Req.nonStop) :
      Safe atMostOnce i p (fun _ _ => True) World.initial :=
    .of_issues (fun w r hr => atMostOnceAllowed_nonStop i w r hr) hp _
  cases call with
  | execute proposalId =>
    refine .bind (StopSandboxInstanceCoordinator.execute_safe proposalId fun r hr => ?_)
      (fun _ _ _ _ _ => safe_plain trivial) fun _ _ _ _ _ => trivial
    simp [World.initial, callers] at hr
  | verify settings target proposalId =>
    exact other (((BoundedVerificationCoordinator.verify_quiet ..).mono Req.nonStop_of_quiet).bind
      fun _ => trivial)
  | recover setup request =>
    exact other ((RecoveryCoordinator.recover_nonStop ..).bind fun _ => trivial)
  | requestApproval runtime proposalId =>
    exact other ((DurableApprovalFlow.request_nonStop ..).bind fun _ => trivial)
  | resumeApproval runtime response =>
    exact other ((DurableApprovalFlow.resume_nonStop ..).bind fun _ => trivial)
  | requestLocal cfg runId principal =>
    exact other ((LocalHitlExecutionFlow.requestApproval_nonStop ..).bind fun _ => trivial)
  | decideLocal cfg d principal =>
    exact other ((LocalHitlExecutionFlow.decide_nonStop ..).bind fun _ => trivial)
  | resumeLocal cfg runId principal =>
    exact other ((LocalHitlExecutionFlow.resume_nonStop ..).bind fun _ => trivial)
  | operation op => exact other (Flow.issues_op_bind.mpr ⟨trivial, fun _ => trivial⟩)

/-- **At-most-once mutation.**  Whatever calls are interleaved, however they crash and whatever the
    repository reports: the private executor has been called at most once for each run, and each
    time the repository held a positive decision on exactly the proposal being executed. -/
theorem executor_called_at_most_once [DecidableEq ι] (calls : ι → Call)
    {c : Config ι (World ι) Req Req.Ans PyExc Reply} (hc : Reachable calls c) :
    (∀ runId, (callers runId c.world.log).length ≤ 1) ∧
      ∀ i command store, .executed i command store ∈ c.world.log → Authorized store command := by
  have hsafe := (reachable_safe AtMostOnceInv.initial
    (fun i => (calls i).safe_atMostOnce i) hc).1
  exact ⟨hsafe.calledOnce, hsafe.authorized⟩

end AtMostOnce

attribute [local instance] Sample.digest in
/-- Two deliveries of the sample approval: the first called the executor. -/
theorem executor_called_at_most_once_sample :
    callers (Sample.uid 1) Sample.finish.world.log = [10] ∧
      (∀ runId, (callers runId Sample.finish.world.log).length ≤ 1) ∧
      ∀ i command store, .executed i command store ∈ Sample.finish.world.log →
        Authorized store command := by
  exact ⟨by decide +kernel, executor_called_at_most_once Sample.calls Sample.reachable_finish⟩

end CloudOpsAgent
