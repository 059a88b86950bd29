/-
  DUPLICATE DELIVERIES: what a second `execute` of the same proposal can do to the first.

  At most one delivery moves the run into `EXECUTING`, and it alone calls the executor, records the
  acknowledgement and moves the run on.  But a duplicate that finds the action claimed and not yet
  acknowledged, or loses the transition, asks for reconciliation: it moves the run from `EXECUTING`
  to `RECOVERY_REQUIRED`, and then the transition of the winner conflicts.

  1. **The discipline** (`duplicates`) — what a delivery may do, and what the winner relies on: its
     registration is its own, and its run stays as it left it unless a duplicate disturbed it.

  2. **The deliveries** — every request of `execute` is allowed; the winner ends with the
     acknowledgement recorded and the run `VERIFYING`, or `RECOVERY_REQUIRED` if it was disturbed.

  3. **A disturbed winner** — the duplicate of the sample run that comes at the wrong time.
-/
import CloudOpsAgent.Flow.Timed
import CloudOpsAgent.Recovery.Execution

namespace CloudOpsAgent

open ClientProg ClientProg.Prog

section Duplicates

variable [Sha256] {ι : Type}

/-! ## What the winner relies on -/

/-- The client has not called the executor. -/
def NotCalled (i : ι) (log : List (Event ι)) : Prop := ∀ c s, .executed i c s ∉ log

/-- The operation asks for reconciliation of a run that is `EXECUTING`. -/
def Op.disturbs (r : UUID) : Op → Prop
  | .transitionRun runId .recoveryRequired .executing .. => runId = r
  | _ => False

/-- Another client moved the run from `EXECUTING` to `RECOVERY_REQUIRED`. -/
def DisturbedBy (r : UUID) (i j : ι) (log : List (Event ι)) : Prop :=
  j ≠ i ∧ ∃ op s s', .stored j op s s' ∈ log ∧ op.disturbs r

theorem DisturbedBy.mono {r : UUID} {i j : ι} {log log' : List (Event ι)} (h : log <+: log')
    (hd : DisturbedBy r i j log) : DisturbedBy r i j log' := by
  obtain ⟨hne, op, s, s', hmem, hop⟩ := hd
  exact ⟨hne, op, s, s', h.subset hmem, hop⟩

section Discipline

variable (p : ActionProposal)

/-- What holds in every world the deliveries of `p` reach. -/
structure DuplicatesInv (w : Timed ι) : Prop where
  proposal : w.world.store.proposals.get p.proposalId = some p
  timely : ∀ run, w.world.store.runs.get p.runId = some run → run.updatedAt ≤ w.time
  moved : ∀ i, i ∈ movers p.runId w.world.log →
    (∃ run, w.world.store.runs.get p.runId = some run ∧ run.state.beforeExecuting = false) ∧
      ∃ record, w.world.store.idempotency.get (deriveIdempotencyKey p) = some record
  movedOnce : (movers p.runId w.world.log).length ≤ 1
  callerMoved : ∀ i c s, .executed i c s ∈ w.world.log → i ∈ movers p.runId w.world.log

/-- An acknowledgement was recorded by whoever moved the run. -/
def AckSound (w : Timed ι) : Prop :=
  ∀ record, w.world.store.idempotency.get (deriveIdempotencyKey p) = some record →
    record.executionAcknowledgement.isSome → movers p.runId w.world.log ≠ []

/-- The action is registered and unresolved. -/
def Registered (w : Timed ι) : Prop :=
  ∃ record, w.world.store.idempotency.get (deriveIdempotencyKey p) = some record ∧
    record.proposalId = p.proposalId ∧ record.status = .registered

/-- What every request moves along. -/
structure DuplicatesEvolve (w w' : Timed ι) : Prop where
  time : w.time ≤ w'.time
  log : w.world.log <+: w'.world.log
  registered : Registered p w → Registered p w'
  acknowledged : AckSound p w → AckSound p w'

/-- The run is as it was, unless it was `EXECUTING` and another client disturbed it. -/
def RunKept (i : ι) (w w' : Timed ι) : Prop :=
  ∀ run, w.world.store.runs.get p.runId = some run →
    w'.world.store.runs.get p.runId = some run ∨
      run.state = .executing ∧ ∃ run', w'.world.store.runs.get p.runId = some run' ∧
        run'.state = .recoveryRequired ∧ ∃ j, DisturbedBy p.runId i j w'.world.log

/-- What a delivery relies on the others for. -/
structure DuplicatesRely (i : ι) (w w' : Timed ι) : Prop extends DuplicatesEvolve p w w' where
  called : ∀ c s, .executed i c s ∈ w'.world.log → .executed i c s ∈ w.world.log
  record : i ∈ movers p.runId w.world.log →
    w'.world.store.idempotency.get (deriveIdempotencyKey p) =
      w.world.store.idempotency.get (deriveIdempotencyKey p)
  run : i ∈ movers p.runId w.world.log → RunKept p i w w'

/-- What a delivery may request. -/
def duplicatesAllowed (i : ι) (w : Timed ι) : Req → Prop
  | .stop _ => i ∈ movers p.runId w.world.log
  | .store op =>
    match op with
    | .transitionRun runId next expected _ t _ _ => runId = p.runId ∧ t ≤ w.time ∧
        (next = .executing ∧ Registered p w ∨
          next = .recoveryRequired ∧ (expected = .approved ∨ expected = .executing) ∨
          next = .verifying ∧ expected = .executing ∧ i ∈ movers p.runId w.world.log)
    | .registerIdempotency record => record.executionAcknowledgement = none ∧
        record.proposalId = p.proposalId ∧ record.status = .registered
    | .recordExecutionAcknowledgement .. => i ∈ movers p.runId w.world.log
    | .getRun _ | .getProposal _ | .getApproval _ | .getIdempotency _ | .getCheckpoint _
    | .appendAuditEvent _ => True
    | _ => False
  | .clock | .freshId => True
  | _ => False

variable {p} {w w' : Timed ι} {i : ι}

theorem DuplicatesEvolve.refl (w : Timed ι) : DuplicatesEvolve p w w :=
  ⟨le_rfl, List.prefix_refl _, id, id⟩

theorem DuplicatesEvolve.trans {w'' : Timed ι} (h : DuplicatesEvolve p w w')
    (h' : DuplicatesEvolve p w' w'') : DuplicatesEvolve p w w'' :=
  ⟨h.time.trans h'.time, h.log.trans h'.log, h'.registered ∘ h.registered,
    h'.acknowledged ∘ h.acknowledged⟩

theorem RunKept.trans {w'' : Timed ι} (h : RunKept p i w w') (h' : RunKept p i w' w'')
    (hlog : w'.world.log <+: w''.world.log) : RunKept p i w w'' := by
  intro run hrun
  obtain hrun | ⟨hs, run', hrun', hs', j, hj⟩ := h run hrun
  · exact h' run hrun
  · -- a disturbed run is no longer `EXECUTING`
    obtain hrun'' | ⟨hs'', -⟩ := h' run' hrun'
    · exact .inr ⟨hs, run', hrun'', hs', j, hj.mono hlog⟩
    · rw [hs'] at hs''
      cases hs''

theorem DuplicatesRely.refl (i : ι) (w : Timed ι) : DuplicatesRely p i w w where
  toDuplicatesEvolve := .refl w
  called _ _ h := h
  record _ := rfl
  run _ _ h := .inl h

theorem DuplicatesRely.trans {w'' : Timed ι} (h : DuplicatesRely p i w w')
    (h' : DuplicatesRely p i w' w'') : DuplicatesRely p i w w'' where
  toDuplicatesEvolve := h.toDuplicatesEvolve.trans h'.toDuplicatesEvolve
  called c s hc := h.called c s (h'.called c s hc)
  record hi := (h'.record (movers_mono h.log hi)).trans (h.record hi)
  run hi := (h.run hi).trans (h'.run (movers_mono h.log hi)) h'.log

/-! ## What an allowed operation does -/

/-- **The effects of a delivery** on the run, its registration and its proposal. -/
inductive DuplicateEffect (p : ActionProposal) (i : ι) (w : Timed ι) (op : Op) (s : Store) : Prop
  | none (hmove : op.entersExecuting = none) (hrun : s.runs = w.world.store.runs)
    (hrecord : s.idempotency.get (deriveIdempotencyKey p) =
      w.world.store.idempotency.get (deriveIdempotencyKey p))
  | registers {record : IdempotencyRecord} (hmove : op.entersExecuting = none)
    (hrun : s.runs = w.world.store.runs)
    (hnone : w.world.store.idempotency.get (deriveIdempotencyKey p) = none)
    (hrecord : s.idempotency.get (deriveIdempotencyKey p) = some record)
    (hack : record.executionAcknowledgement = none)
  | acknowledges {record record' : IdempotencyRecord} (hmove : op.entersExecuting = none)
    (hrun : s.runs = w.world.store.runs) (hi : i ∈ movers p.runId w.world.log)
    (hrecord : w.world.store.idempotency.get (deriveIdempotencyKey p) = some record)
    (hrecord' : s.idempotency.get (deriveIdempotencyKey p) = some record')
    (hpid : record'.proposalId = record.proposalId) (hstatus : record'.status = record.status)
  | moves {current run : Run} {t : Time} {approvalId verificationId : Option UUID}
    (next : WorkflowState)
    (hop : op = .transitionRun p.runId next current.state current.version t approvalId verificationId)
    (hcurrent : w.world.store.runs.get p.runId = some current)
    (hrun : s.runs.get p.runId = some run) (hstate : run.state = next)
    (hnext : next ∈ ALLOWED_WORKFLOW_TRANSITIONS current.state)
    (hupdated : run.updatedAt ≤ w.time)
    (hrecord : s.idempotency = w.world.store.idempotency)
    (hwhy : next = .executing ∧ Registered p w ∨
      next = .recoveryRequired ∧ (current.state = .approved ∨ current.state = .executing) ∨
      next = .verifying ∧ current.state = .executing ∧ i ∈ movers p.runId w.world.log)

theorem duplicateEffect {op : Op} {s : Store} (ha : duplicatesAllowed p i w (.store op))
    (h : Write w.world.store op s) :
    s.proposals = w.world.store.proposals ∧ DuplicateEffect p i w op s := by
  cases h with
  | unchanged hr =>
    refine ⟨rfl, .none ?_ rfl rfl⟩
    cases op <;> first | rfl | cases hr
  | @transitionRun current run next t approvalId verificationId hc hd hv ht =>
    obtain ⟨hid, htime, hwhy⟩ := ha
    obtain ⟨hn, -, hs, -, hu, hrid, -⟩ := transitionRun_ok ht
    rw [hid] at hc
    refine ⟨rfl, .moves next (by rw [hid]) hc ?_ hs hn (hu ▸ htime) rfl hwhy⟩
    rw [← hid, ← hrid]
    exact Table.get_put_self _ _
  | @registerIdempotency r q run a hn hp hs hf hk happroval had hr hrs =>
    refine ⟨rfl, ?_⟩
    by_cases hkey : r.idempotencyKey = deriveIdempotencyKey p
    · rw [hkey] at hn
      exact .registers rfl rfl hn (hkey ▸ Table.get_put_self _ _) ha.1
    · exact .none rfl rfl (Table.get_put_of_ne _ (Ne.symm hkey))
  | @recordExecutionAcknowledgement current ack hc hn hp =>
    refine ⟨rfl, ?_⟩
    by_cases hkey : current.idempotencyKey = deriveIdempotencyKey p
    · rw [hkey] at hc
      refine .acknowledges rfl rfl ha hc (?_ : _ = some { current with
        executionAcknowledgement := some ack }) rfl rfl
      rw [← hkey]
      exact Table.get_put_self _ _
    · exact .none rfl rfl (Table.get_put_of_ne _ (Ne.symm hkey))
  | appendAuditEvent hn => exact ⟨rfl, .none rfl rfl rfl⟩
  | _ => exact absurd ha id

/-! ## The discipline -/

/-- Only the run that nobody has moved yet is moved into `EXECUTING`. -/
theorem DuplicatesInv.movers_of_executing (hw : DuplicatesInv p w) {current : Run}
    (hc : w.world.store.runs.get p.runId = some current)
    (hn : .executing ∈ ALLOWED_WORKFLOW_TRANSITIONS current.state) :
    movers p.runId w.world.log = [] := by
  refine List.eq_nil_iff_forall_not_mem.mpr fun j hj => ?_
  obtain ⟨⟨run, hrun, hs⟩, -⟩ := hw.moved j hj
  rw [hc] at hrun
  cases hrun
  rw [approved_of_executing_allowed hn] at hs
  cases hs

theorem DuplicatesInv.applied (hw : DuplicatesInv p w) {op : Op} {s : Store}
    (ha : duplicatesAllowed p i w (.store op)) (h : Write w.world.store op s) {t : Time}
    (ht : w.time ≤ t) : DuplicatesInv p ⟨w.world.applied i op s, t⟩ := by
  obtain ⟨hproposals, heffect⟩ := duplicateEffect ha h
  have hcalled : ∀ j c s', .executed j c s' ∈ (w.world.applied i op s).log →
      j ∈ movers p.runId (w.world.applied i op s).log := by
    intro j c s' hj
    rw [World.applied_log, List.mem_append] at hj
    refine movers_mono (List.prefix_append _ _) (hw.callerMoved j c s' (hj.resolve_right ?_))
    simp
  have hproposal : s.proposals.get p.proposalId = some p := hproposals ▸ hw.proposal
  have hevolves := h.evolves
  -- nobody else moves the run: the facts about movers are those of before
  have unmoved (hmove : op.entersExecuting ≠ some p.runId)
      (htimely : ∀ run, s.runs.get p.runId = some run → run.updatedAt ≤ t) :
      DuplicatesInv p ⟨w.world.applied i op s, t⟩ := by
    refine ⟨hproposal, htimely, fun j hj => ?_, ?_, hcalled⟩
    · rw [movers_applied, if_neg hmove, List.append_nil] at hj
      obtain ⟨⟨run, hrun, hs⟩, record, hrecord⟩ := hw.moved j hj
      obtain ⟨run', hrun', hev⟩ := hevolves.runs _ _ hrun
      obtain ⟨record', hrecord', -⟩ := hevolves.idempotency _ _ hrecord
      exact ⟨⟨run', hrun', Bool.eq_false_iff.mpr fun hb => by simp [hev.beforeExecuting hb] at hs⟩,
        record', hrecord'⟩
    · rw [movers_applied, if_neg hmove, List.append_nil]
      exact hw.movedOnce
  have same (hrun : s.runs = w.world.store.runs) (run : Run)
      (h : s.runs.get p.runId = some run) : run.updatedAt ≤ t :=
    (hw.timely run (hrun ▸ h)).trans ht
  cases heffect with
  | none hmove hrun hrecord => exact unmoved (by simp [hmove]) (same hrun)
  | registers hmove hrun => exact unmoved (by simp [hmove]) (same hrun)
  | acknowledges hmove hrun => exact unmoved (by simp [hmove]) (same hrun)
  | @moves current run t' _ _ next hop hc hrun hs hn hu hrecord hwhy =>
    have htimely (run' : Run) (h' : s.runs.get p.runId = some run') : run'.updatedAt ≤ t := by
      rw [hrun] at h'
      cases h'
      exact hu.trans ht
    rcases hwhy with ⟨rfl, record, hget, -⟩ | hwhy
    · -- the first transition into `EXECUTING`
      have hnil := hw.movers_of_executing hc hn
      have hentered : op.entersExecuting = some p.runId := by rw [hop]; rfl
      refine ⟨hproposal, htimely, fun j hj => ⟨⟨run, hrun, by rw [hs]; rfl⟩, record, ?_⟩, ?_,
        hcalled⟩
      · simp only [World.applied_store, hrecord, hget]
      · rw [movers_applied, hnil, if_pos hentered]
        exact le_rfl
    · refine unmoved ?_ htimely
      rw [hop]
      rcases hwhy with ⟨rfl, -⟩ | ⟨rfl, -⟩ <;> simp [Op.entersExecuting]

/-- What is registered stays registered, and acknowledgements stay the mover's. -/
theorem DuplicatesEvolve.applied {op : Op} {s : Store} (ha : duplicatesAllowed p i w (.store op))
    (h : Write w.world.store op s) {t : Time} (ht : w.time ≤ t) :
    DuplicatesEvolve p w ⟨w.world.applied i op s, t⟩ := by
  have hlog : w.world.log <+: (w.world.applied i op s).log := List.prefix_append _ _
  have same (hrecord : s.idempotency.get (deriveIdempotencyKey p) =
      w.world.store.idempotency.get (deriveIdempotencyKey p)) :
      DuplicatesEvolve p w ⟨w.world.applied i op s, t⟩ := by
    refine ⟨ht, hlog, fun ⟨record, hget, hreg⟩ => ⟨record, hrecord.trans hget, hreg⟩,
      fun hsound record hget hack => ?_⟩
    exact List.ne_nil_of_mem (movers_mono hlog
      (List.head_mem (hsound record (hrecord ▸ hget) hack)))
  cases (duplicateEffect ha h).2 with
  | none hmove hrun hrecord => exact same hrecord
  | registers hmove hrun hnone hrecord hack =>
    refine ⟨ht, hlog, fun ⟨record, hget, _⟩ => ?_, fun _ record hget hsome => ?_⟩
    · rw [hnone] at hget
      cases hget
    · rw [World.applied_store, hrecord] at hget
      cases hget
      rw [hack] at hsome
      cases hsome
  | acknowledges hmove hrun hi hrecord hrecord' hpid hstatus =>
    refine ⟨ht, hlog, fun ⟨record, hget, hp, hs⟩ => ⟨_, hrecord', ?_, ?_⟩, fun _ _ _ _ => ?_⟩
    · rw [hrecord] at hget
      cases hget
      exact hpid.trans hp
    · rw [hrecord] at hget
      cases hget
      exact hstatus.trans hs
    · exact List.ne_nil_of_mem (movers_mono hlog hi)
  | moves next hop hc hrun hs hn hu hrecord => exact same (by rw [hrecord])

/-- Another delivery leaves the winner's registration alone, and its run unless it disturbs it. -/
theorem DuplicatesRely.applied {j : ι} (hj : j ≠ i) (hw : DuplicatesInv p w) {op : Op} {s : Store}
    (ha : duplicatesAllowed p i w (.store op)) (h : Write w.world.store op s) {t : Time}
    (ht : w.time ≤ t) : DuplicatesRely p j w ⟨w.world.applied i op s, t⟩ := by
  refine ⟨.applied ha h ht, fun c s' hc => ?_, fun hmover => ?_, fun hmover run hrun => ?_⟩
  · rw [World.applied_log, List.mem_append] at hc
    exact hc.resolve_right (by simp)
  · cases (duplicateEffect ha h).2 with
    | none hmove hrun hrecord => exact hrecord
    | registers hmove hrun hnone =>
      obtain ⟨-, record, hget⟩ := hw.moved j hmover
      rw [hnone] at hget
      cases hget
    | acknowledges hmove hrun hi =>
      exact absurd (eq_of_mem_of_length_le_one hw.movedOnce hmover hi) hj
    | moves next hop hc hrun hs hn hu hrecord =>
      rw [World.applied_store, hrecord]
  · have same (hruns : s.runs = w.world.store.runs) : s.runs.get p.runId = some run :=
      hruns ▸ hrun
    cases (duplicateEffect ha h).2 with
    | none hmove hruns => exact .inl (same hruns)
    | registers hmove hruns => exact .inl (same hruns)
    | acknowledges hmove hruns => exact .inl (same hruns)
    | @moves current run' t' _ _ next hop hc hrun' hs hn hu hrecord hwhy =>
      rw [hrun] at hc
      cases hc
      rcases hwhy with ⟨rfl, -⟩ | ⟨rfl, happroved | hexecuting⟩ | ⟨rfl, -, hi⟩
      · rw [hw.movers_of_executing hrun hn] at hmover
        cases hmover
      · obtain ⟨⟨run'', hrun'', hs''⟩, -⟩ := hw.moved j hmover
        rw [hrun] at hrun''
        cases hrun''
        rw [happroved] at hs''
        cases hs''
      · -- this is the disturbance
        refine .inr ⟨hexecuting, run', hrun', hs, i, Ne.symm hj, op, w.world.store, s, ?_, ?_⟩
        · rw [World.applied_log]
          exact List.mem_append_right _ (List.mem_singleton.mpr rfl)
        · rw [hop, hexecuting]
          rfl
      · exact absurd (eq_of_mem_of_length_le_one hw.movedOnce hmover hi) hj

/-- The history of a call to the executor. -/
theorem DuplicatesInv.executed (hw : DuplicatesInv p w) (hi : i ∈ movers p.runId w.world.log)
    (c : StopExecutionCommand) {t : Time} (ht : w.time ≤ t) :
    DuplicatesInv p ⟨w.world.logged (.executed i c w.world.store), t⟩ := by
  have hmovers : movers p.runId (w.world.logged (.executed i c w.world.store)).log =
      movers p.runId w.world.log := by
    rw [World.logged_log, movers_append]
    exact List.append_nil _
  refine ⟨hw.proposal, fun run hrun => (hw.timely run hrun).trans ht, fun j hj => ?_, ?_,
    fun j c' s hj => ?_⟩
  · rw [hmovers] at hj
    exact hw.moved j hj
  · rw [hmovers]
    exact hw.movedOnce
  · rw [hmovers]
    rw [World.logged_log, List.mem_append] at hj
    rcases hj with hj | hj
    · exact hw.callerMoved j c' s hj
    · rw [List.mem_singleton] at hj
      cases hj
      exact hi

theorem DuplicatesEvolve.of_store (ht : w.time ≤ w'.time)
    (hstore : w'.world.store = w.world.store) (hlog : w.world.log <+: w'.world.log) :
    DuplicatesEvolve p w w' where
  time := ht
  log := hlog
  registered := by
    unfold Registered
    rw [hstore]
    exact id
  acknowledged h record hget hack := by
    rw [hstore] at hget
    exact List.ne_nil_of_mem (movers_mono hlog (List.head_mem (h record hget hack)))

theorem DuplicatesRely.of_store (ht : w.time ≤ w'.time)
    (hstore : w'.world.store = w.world.store) (hlog : w.world.log <+: w'.world.log)
    (hcalled : ∀ c s, .executed i c s ∈ w'.world.log → .executed i c s ∈ w.world.log) :
    DuplicatesRely p i w w' where
  toDuplicatesEvolve := .of_store ht hstore hlog
  called := hcalled
  record _ := by rw [hstore]
  run _ run hrun := .inl (hstore ▸ hrun)

theorem DuplicatesInv.later (hw : DuplicatesInv p w) (ht : w.time ≤ w'.time)
    (hworld : w'.world = w.world) : DuplicatesInv p w' := by
  obtain ⟨world, t⟩ := w'
  cases hworld
  exact { hw with timely := fun run hrun => (hw.timely run hrun).trans ht }

end Discipline

/-- The discipline of duplicate deliveries of `p`. -/
def duplicates (p : ActionProposal) (acknowledge : StopExecutionCommand → ExecutionAcknowledgement) :
    Discipline (Reliable (ι := ι) acknowledge) where
  inv := DuplicatesInv p
  evolve := DuplicatesEvolve p
  rely := DuplicatesRely p
  allowed := duplicatesAllowed p
  evolve_trans h h' := h.trans h'
  rely_refl := .refl
  rely_trans _ _ _ _ h h' := h.trans h'
  evolve_of_rely h := h.toDuplicatesEvolve
  step {i w r x w'} hw ha hx := by
    obtain ⟨ht, hx⟩ := hx
    have same (h : w'.world = w.world) : DuplicatesInv p w' ∧ DuplicatesEvolve p w w' ∧
        ∀ j, j ≠ i → DuplicatesRely p j w w' :=
      ⟨hw.later ht h, .of_store ht (h ▸ rfl) (h ▸ List.prefix_refl _),
        fun j _ => .of_store ht (h ▸ rfl) (h ▸ List.prefix_refl _) fun c s hc => h ▸ hc⟩
    obtain ⟨world, t⟩ := w'
    cases r with
    | store op =>
      cases hx with
      | done h =>
        have hwrite := Op.write h
        exact ⟨hw.applied ha hwrite ht, .applied ha hwrite ht,
          fun j hj => .applied hj hw ha hwrite ht⟩
      | refused h hop => exact same rfl
    | clock => exact same hx.2.2
    | freshId => exact same hx
    | stop c =>
      obtain ⟨-, rfl⟩ := hx
      refine ⟨hw.executed ha c ht, .of_store ht rfl (List.prefix_append _ _),
        fun j hj => .of_store ht rfl (List.prefix_append _ _) fun c' s hc => ?_⟩
      rw [World.logged_log, List.mem_append, List.mem_singleton] at hc
      rcases hc with hc | hc
      · exact hc
      · cases hc
        exact absurd rfl hj
    | _ => exact absurd ha id

/-! ## The winner -/

section Winner

variable {p : ActionProposal} {acknowledge : StopExecutionCommand → ExecutionAcknowledgement}
  {w w' : Timed ι} {i : ι} {run : Run} {ack : Option ExecutionAcknowledgement}
  {called : StopExecutionCommand → Prop}

/-- Another delivery has taken the run from `EXECUTING` to `RECOVERY_REQUIRED`. -/
def Lost (p : ActionProposal) (i : ι) (w : World ι) : Prop :=
  ∃ run, w.store.runs.get p.runId = some run ∧ run.state = .recoveryRequired ∧
    ∃ j, DisturbedBy p.runId i j w.log

/-- What the client that moved the run into `EXECUTING` knows: its registration with acknowledgement
    `ack`, its run, unless it has lost it, and which commands it has called the executor with. -/
structure Won (p : ActionProposal) (i : ι) (run : Run) (ack : Option ExecutionAcknowledgement)
    (called : StopExecutionCommand → Prop) (w : World ι) : Prop where
  mover : i ∈ movers p.runId w.log
  record : ∃ record, w.store.idempotency.get (deriveIdempotencyKey p) = some record ∧
    record.proposalId = p.proposalId ∧ record.status = .registered ∧
    record.executionAcknowledgement = ack
  run : w.store.runs.get p.runId = some run ∨ run.state = .executing ∧ Lost p i w
  called : ∀ c s, .executed i c s ∈ w.log → called c

theorem Lost.rely (h : Lost p i w.world) (hi : i ∈ movers p.runId w.world.log)
    (hr : DuplicatesRely p i w w') : Lost p i w'.world := by
  obtain ⟨run, hrun, hs, j, hj⟩ := h
  obtain hrun' | ⟨hs', -⟩ := hr.run hi run hrun
  · exact ⟨run, hrun', hs, j, hj.mono hr.log⟩
  · rw [hs] at hs'
    cases hs'

theorem Won.rely (h : Won p i run ack called w.world) (hr : DuplicatesRely p i w w') :
    Won p i run ack called w'.world where
  mover := movers_mono hr.log h.mover
  record := by
    rw [hr.record h.mover]
    exact h.record
  run := by
    obtain hrun | ⟨hs, hlost⟩ := h.run
    · exact hr.run h.mover run hrun
    · exact .inr ⟨hs, hlost.rely h.mover hr⟩
  called c s hc := h.called c s (hr.called c s hc)

/-- An operation of the winner that leaves its run alone. -/
theorem Won.applied {op : Op} {s : Store} {ack' : Option ExecutionAcknowledgement}
    (h : Won p i run ack called w.world) (hruns : s.runs = w.world.store.runs)
    (hrecord : ∃ record, s.idempotency.get (deriveIdempotencyKey p) = some record ∧
      record.proposalId = p.proposalId ∧ record.status = .registered ∧
      record.executionAcknowledgement = ack') :
    Won p i run ack' called (w.world.applied i op s) where
  mover := movers_mono (List.prefix_append _ _) h.mover
  record := hrecord
  run := by
    have hlog : w.world.log <+: (w.world.applied i op s).log := List.prefix_append _ _
    obtain hrun | ⟨hs, run', hrun', hs', j, hj⟩ := h.run
    · exact .inl (hruns ▸ hrun)
    · exact .inr ⟨hs, run', hruns ▸ hrun', hs', j, hj.mono hlog⟩
  called c s' hc := by
    rw [World.applied_log, List.mem_append] at hc
    exact h.called c s' (hc.resolve_right (by simp))

/-- The winner's acknowledgement is accepted. -/
theorem Won.acknowledged (h : Won p i run none called w.world) {a : ExecutionAcknowledgement}
    (ha : a.proposalId = p.proposalId) :
    ∃ r s, (Op.recordExecutionAcknowledgement (deriveIdempotencyKey p) a .registered).run
        w.world.store = .ok (r, s) ∧ Won p i run (some a) called (w.world.applied i
          (.recordExecutionAcknowledgement (deriveIdempotencyKey p) a .registered) s) := by
  obtain ⟨record, hget, hpid, hstatus, hack⟩ := h.record
  have hkey : record.idempotencyKey = deriveIdempotencyKey p := Table.key_of_get hget
  let record' : IdempotencyRecord := { record with executionAcknowledgement := some a }
  have howner : a.proposalId = record.proposalId := ha.trans hpid.symm
  refine ⟨record', { w.world.store with
    idempotency := w.world.store.idempotency.put record' }, ?_, h.applied rfl
      ⟨record', ?_, hpid, hstatus, rfl⟩⟩
  · have hregistered : ¬record.status ≠ .registered := not_not.mpr hstatus
    simp only [Op.run, Store.recordExecutionAcknowledgement, hget, if_neg hregistered, hack, howner,
      ne_eq, not_true, if_false]
    rfl
  · rw [← hkey]
    exact Table.get_put_self _ _

/-- The winner's transition out of `EXECUTING` succeeds, unless it has lost the run. -/
theorem Won.verifying (h : Won p i run ack called w.world) (hs : run.state = .executing) {t : Time}
    (ht : run.updatedAt ≤ t) {o : Op}
    (ho : o = .transitionRun p.runId .verifying .executing run.version t none none) :
    (∃ run' s, w.world.store.transitionRun p.runId .verifying .executing run.version t none none =
        .ok (run', s) ∧ run'.state = .verifying ∧ run'.runId = p.runId ∧
        Won p i run' ack called (w.world.applied i o s)) ∨ Lost p i w.world := by
  obtain hrun | ⟨-, hlost⟩ := h.run
  · obtain ⟨run', hmoved⟩ : ∃ run', transitionRun run .verifying t = .ok run' := by
      have : WorkflowState.verifying ∈ ALLOWED_WORKFLOW_TRANSITIONS .executing := by decide
      simp [transitionRun, validateWorkflowTransition, hs, this, ht]
    obtain ⟨-, -, h1, -, -, h3, -⟩ := transitionRun_ok hmoved
    have hid : run.runId = p.runId := Table.key_of_get hrun
    refine .inl ⟨run', { w.world.store with runs := w.world.store.runs.put run' }, ?_, h1,
      h3.trans hid, ?_⟩
    · simp only [Store.transitionRun, hrun, Option.elim_some, bind, Except.bind, hs,
        Store.decisionCheck, Store.successCheck, hmoved, not_true, or_self, ne_eq, if_false,
        reduceCtorEq]
    · subst ho
      exact {
        mover := movers_mono (List.prefix_append _ _) h.mover
        record := h.record
        run := by
          rw [← hid, ← h3]
          exact .inl (Table.get_put_self _ _)
        called := fun c s' hc => by
          rw [World.applied_log, List.mem_append] at hc
          exact h.called c s' (hc.resolve_right (by simp)) }
  · exact .inr hlost

end Winner

/-! ## The deliveries -/

namespace StopSandboxInstanceCoordinator

variable {p : ActionProposal} {acknowledge : StopExecutionCommand → ExecutionAcknowledgement}
  {w : Timed ι} {i : ι}

/-- Nothing but a call of the executor makes a client a caller. -/
theorem notCalled_frame {α : Type} {q : Flow α} (hq : q.Issues Req.nonStop)
    {Q : Except PyExc α → Timed ι → Prop} (hw : NotCalled i w.world.log)
    (h : Safe (duplicates p acknowledge) i q Q w) :
    Safe (duplicates p acknowledge) i q (fun o w => NotCalled i w.world.log ∧ Q o w) w := by
  refine Safe.frame (D := duplicates p acknowledge) (P := Req.nonStop)
    (F := fun w => NotCalled i w.world.log) (fun w w' hr h c s hc => h c s (hr.called c s hc))
    (fun w r x w' hr hx h c s hc => ?_) hq hw h
  have hx := hx.answers
  cases r with
  | store op =>
    obtain hx | ⟨s', -, hx⟩ := answers_store hx
    · exact h c s (hx ▸ hc)
    · rw [hx, World.applied_log, List.mem_append] at hc
      exact h c s (hc.resolve_right (by simp))
  | inspect id identity =>
    rw [show w'.world = _ from hx, World.logged_log, List.mem_append] at hc
    exact h c s (hc.resolve_right (by simp))
  | stop command => cases hr
  | _ => exact h c s ((show w'.world = w.world from hx) ▸ hc)

/-- The prerequisite reads are about `p` and its run. -/
theorem requireApprovedRecords_duplicates (w : Timed ι) :
    Safe (duplicates p acknowledge) i (requireApprovedRecords p.proposalId)
      (fun o _ => ∀ x, o = .ok x → x.1.runId = p.runId ∧ x.2.1 = p) w := by
  have raised {w : Timed ι} {e : PyExc} : Safe (duplicates p acknowledge) i
      (.raise e : Flow (Run × ActionProposal × Approval))
      (fun o _ => ∀ x, o = .ok x → x.1.runId = p.runId ∧ x.2.1 = p) w :=
    safe_raise fun _ _ _ x hx => by cases hx
  refine timed_read_bind (K := fun _ => True) (fun _ _ _ _ _ => trivial) (o := .getProposal p.proposalId)
    (·.proposals.get p.proposalId) (fun _ => rfl) trivial (fun _ _ _ => trivial)
    fun w1 w1' hI1 _ _ _ _ => ?_
  rw [hI1.proposal]
  dsimp only
  split
  · exact raised
  refine timed_read_bind (K := fun _ => True) (fun _ _ _ _ _ => trivial) (o := .getApproval p.proposalId)
    (·.approvals.get p.proposalId) (fun _ => rfl) trivial (fun _ _ _ => trivial)
    fun w2 w2' _ _ _ _ _ => ?_
  cases w2.world.store.approvals.get p.proposalId with
  | none => exact raised
  | some approval =>
    dsimp only
    split
    · exact raised
    refine timed_read_bind (K := fun _ => True) (fun _ _ _ _ _ => trivial) (o := .getRun p.runId)
      (·.runs.get p.runId) (fun _ => rfl) trivial (fun _ _ _ => trivial)
      fun w3 w3' _ _ _ _ _ => ?_
    cases hrun : w3.world.store.runs.get p.runId with
    | none => exact raised
    | some run =>
      dsimp only
      split
      · exact raised
      · refine safe_ret fun _ _ _ x hx => ?_
        cases hx
        exact ⟨Table.key_of_get hrun, rfl⟩

/-- What a registration has filed is unresolved. -/
theorem registerApprovedAction_duplicates (t : Time) (w : Timed ι) :
    Safe (duplicates p acknowledge) i (registerApprovedAction p.proposalId t)
      (fun o _ => ∀ record, o = .ok record → record.idempotencyKey = deriveIdempotencyKey p) w := by
  refine .bind (requireApprovedRecords_duplicates w) (fun x w1 _ _ hx => ?_)
    fun e w' _ _ _ record hr => by cases hr
  obtain ⟨run, proposal, approval⟩ := x
  obtain ⟨-, rfl⟩ := hx _ rfl
  dsimp only
  cases hbuild : buildIdempotencyRecord proposal t with
  | error e => exact safe_raise fun _ _ _ record hr => by cases hr
  | ok record =>
    obtain ⟨hkey, hpid, hstatus, hack⟩ : record.idempotencyKey = deriveIdempotencyKey proposal ∧
        record.proposalId = proposal.proposalId ∧ record.status = .registered ∧
        record.executionAcknowledgement = none := by
      unfold buildIdempotencyRecord at hbuild
      split at hbuild
      · cases hbuild
      · cases hbuild
        exact ⟨rfl, rfl, rfl, rfl⟩
    refine timed_op (K := fun _ => True) (fun _ _ _ _ _ => trivial) (o := .registerIdempotency record)
      trivial (fun _ _ _ => ⟨hack, hpid, hstatus⟩) (fun v s w2 w2' _ _ hv _ _ _ => ?_)
      fun x _ _ _ _ _ _ _ _ _ => safe_raise fun _ _ _ record hr => by cases hr
    refine safe_ret fun _ _ _ record' hr => ?_
    cases hr
    obtain ⟨hget, -⟩ | ⟨hnew, -⟩ := Store.registerIdempotency_ok hv
    · exact (Table.key_of_get hget).trans hkey
    · exact (congrArg IdempotencyRecord.idempotencyKey hnew).trans hkey

theorem loadExecutionPrerequisites_duplicates (w : Timed ι) :
    Safe (duplicates p acknowledge) i (loadExecutionPrerequisites p.proposalId)
      (fun o w => ∀ x, o = .ok x → x.run.runId = p.runId ∧ x.proposal = p ∧ Registered p w) w := by
  have raised {w : Timed ι} {e : PyExc} : Safe (duplicates p acknowledge) i
      (.raise e : Flow ApprovedActionPrerequisites) (fun o w => ∀ x, o = .ok x →
        x.run.runId = p.runId ∧ x.proposal = p ∧ Registered p w) w :=
    safe_raise fun _ _ _ x hx => by cases hx
  refine .bind (requireApprovedRecords_duplicates w) (fun x w1 _ _ hx => ?_)
    fun e w' _ _ _ x hx => by cases hx
  obtain ⟨run, proposal, approval⟩ := x
  obtain ⟨hid, rfl⟩ := hx _ rfl
  dsimp only at hid ⊢
  refine timed_read_bind (K := fun _ => True) (fun _ _ _ _ _ => trivial)
    (o := .getIdempotency (deriveIdempotencyKey proposal))
    (·.idempotency.get (deriveIdempotencyKey proposal)) (fun _ => rfl) trivial (fun _ _ _ => trivial)
    fun w2 w2' _ _ hw2 _ _ => ?_
  cases hrecord : w2.world.store.idempotency.get (deriveIdempotencyKey proposal) with
  | none => exact raised
  | some record =>
    dsimp only
    split
    · exact raised
    · rename_i hregistered
      rw [not_or, not_not, not_not] at hregistered
      have hreg : Registered proposal w2' := ⟨record, by rw [hw2]; exact hrecord, hregistered⟩
      refine timed_read_bind (K := Registered proposal)
        (fun v v' (hr : DuplicatesRely proposal i v v') _ h => hr.registered h)
        (o := .getCheckpoint run.runId) (·.checkpoints.get run.runId) (fun _ => rfl) hreg
        (fun _ _ _ => trivial) fun w3 w3' _ hK3 _ _ hev => ?_
      cases w3.world.store.checkpoints.get run.runId with
      | none => exact raised
      | some checkpoint =>
        dsimp only
        split
        · exact raised
        split
        · exact raised
        refine safe_ret fun w4 hev' _ x hx => ?_
        cases hx
        exact ⟨hid, rfl, hev'.registered (hev.registered hK3)⟩

/-- An audit event is allowed anywhere, and is never refused. -/
theorem appendEvent_duplicates {K : Timed ι → Prop}
    (hK : ∀ v v', DuplicatesRely p i v v' → K v → K v')
    (happlied : ∀ v op s t, v.time ≤ t → s.runs = v.world.store.runs →
      s.idempotency = v.world.store.idempotency → K v → K ⟨v.world.applied i op s, t⟩)
    (hlater : ∀ v t, v.time ≤ t → K v → K ⟨v.world, t⟩) {run : Run} {type : AuditEventType}
    {hash : Sha256Digest} {metadata : Dict String String} (hw : K w) :
    Safe (duplicates p acknowledge) i (appendEvent run type hash metadata)
      (fun o w => o = .ok () ∧ K w) w := by
  have hK' (v v' : Timed ι) (hr : DuplicatesRely p i v v') (_ : DuplicatesInv p v') := hK v v' hr
  refine Safe.call_stable (K := K) hK' hw fun w1 _ hK1 => ⟨trivial, fun eventId w1' hx _ hev => ?_⟩
  have hx' : w1' = ⟨w1.world, w1'.time⟩ := by
    obtain ⟨world, t⟩ := w1'
    obtain ⟨-, hx⟩ := hx
    cases (show world = w1.world from hx)
    rfl
  have hK1' : K w1' := hx' ▸ hlater w1 _ hev.time hK1
  refine timed_clock_bind (D := duplicates p acknowledge) hK' hK1' (fun _ => trivial)
    fun timestamp w2 w2' _ hK2 _ _ hw2 _ hev2 => ?_
  have hK2' : K w2' := by
    obtain ⟨world, t⟩ := w2'
    cases hw2
    exact hlater w2 _ hev2.time hK2
  refine timed_op_bind (D := duplicates p acknowledge) hK' hK2' (fun _ _ _ => trivial)
    (fun v s w3 w3' _ hK3 hv hw3 _ hev3 => ?_) fun x _ _ _ _ _ hop => ?_
  · obtain ⟨-, -, -, hs⟩ := Store.appendAuditEvent_ok hv
    have hK3' : K w3' := by
      obtain ⟨world, t⟩ := w3'
      cases hw3
      exact happlied w3 _ s _ hev3.time (hs ▸ rfl) (hs ▸ rfl) hK3
    exact fun w4 hr _ => ⟨rfl, hK w3' w4 hr hK3'⟩
  · cases hop

/-- **Claiming**: whoever gets through it has won the run. -/
theorem claim_duplicates (w : Timed ι) (hsound : AckSound p w) (hnone : NotCalled i w.world.log) :
    Safe (duplicates p acknowledge) i (claim p p.proposalId) (fun o w => ∀ c, o = .ok c →
      Won p i c.run none (fun _ => False) w.world ∧ c.run.updatedAt ≤ w.time ∧
      c.run.state = .executing ∧ c.run.runId = p.runId ∧ c.command.proposalId = p.proposalId ∧
      c.idempotency.idempotencyKey = deriveIdempotencyKey p) w := by
  have raised {e : PyExc} {w : Timed ι} : ∀ c, (.error e : Except PyExc Claimed) = .ok c →
      Won p i c.run none (fun _ => False) w.world ∧ c.run.updatedAt ≤ w.time ∧
      c.run.state = .executing ∧ c.run.runId = p.runId ∧ c.command.proposalId = p.proposalId ∧
      c.idempotency.idempotencyKey = deriveIdempotencyKey p := fun c hc => by cases hc
  let K (v : Timed ι) : Prop := AckSound p v ∧ NotCalled i v.world.log
  have hK (v v' : Timed ι) (hr : DuplicatesRely p i v v') (_ : DuplicatesInv p v') (h : K v) :
      K v' := ⟨hr.acknowledged h.1, fun c s hc => h.2 c s (hr.called c s hc)⟩
  refine timed_clock_bind (D := duplicates p acknowledge) (K := K) hK ⟨hsound, hnone⟩
    (fun _ => trivial) fun registeredAt w1 w1' _ hK1 _ _ hw1 _ hev1 => ?_
  have hnone1 : NotCalled i w1'.world.log := hw1 ▸ hK1.2
  refine .bind (notCalled_frame ((registerApprovedAction_plain ..).mono Req.nonStop_of_plain) hnone1
    (registerApprovedAction_duplicates registeredAt w1')) (fun record w2 hev2 _ hr => ?_)
    fun _ _ _ _ _ => raised
  obtain ⟨hnone2, hkey⟩ := hr
  refine .bind (notCalled_frame ((loadExecutionPrerequisites_plain ..).mono Req.nonStop_of_plain)
    hnone2 (loadExecutionPrerequisites_duplicates w2)) (fun q w3 hev3 _ hq => ?_)
    fun _ _ _ _ _ => raised
  obtain ⟨hnone3, hq⟩ := hq
  obtain ⟨hid, hproposal, hreg⟩ := hq q rfl
  have hsound3 : AckSound p w3 :=
    hev3.acknowledged (hev2.acknowledged (hev1.acknowledged hK1.1))
  let L (v : Timed ι) : Prop := K v ∧ Registered p v
  have hL (v v' : Timed ι) (hr : DuplicatesRely p i v v') (hI : DuplicatesInv p v') (h : L v) :
      L v' := ⟨hK v v' hr hI h.1, hr.registered h.2⟩
  refine timed_clock_bind (D := duplicates p acknowledge) (K := L) hL ⟨⟨hsound3, hnone3⟩, hreg⟩
    (fun _ => trivial) fun updatedAt w4 w4' _ hL4 _ ht4 hw4 _ hev4 => ?_
  let M (v : Timed ι) : Prop := L v ∧ updatedAt ≤ v.time
  have hM (v v' : Timed ι) (hr : DuplicatesRely p i v v') (hI : DuplicatesInv p v') (h : M v) :
      M v' := ⟨hL v v' hr hI h.1, h.2.trans hr.time⟩
  have hM4 : M w4' := ⟨⟨⟨hev4.acknowledged hL4.1.1, hw4 ▸ hL4.1.2⟩, hev4.registered hL4.2⟩, ht4⟩
  refine timed_op_bind (D := duplicates p acknowledge) (K := M) hM hM4
    (fun v _ h => ⟨hid, h.2, .inl ⟨rfl, h.1.2⟩⟩) (fun run s w5 w5' hI5 hM5 hs hw5 _ hev5 => ?_)
    fun _ _ _ _ _ _ _ _ _ _ => safe_raise fun _ _ _ => raised
  -- this client's own transition succeeded: nobody has moved the run before
  obtain ⟨current, hc, -, -, -, -, ht, rfl⟩ := Store.transitionRun_ok hs
  obtain ⟨hn, -, hstate, -, hupdated, hrid, -⟩ := transitionRun_ok ht
  have hcid : current.runId = p.runId := (Table.key_of_get hc).trans hid
  have hwon : Won p i run none (fun _ => False) w5'.world := by
    rw [hid] at hc
    have hnil := hI5.movers_of_executing hc hn
    obtain ⟨record, hget, hpid, hstatus⟩ := hM5.1.2
    rw [hw5]
    refine ⟨?_, ⟨record, hget, hpid, hstatus, ?_⟩, .inl ?_, fun c s' hcall => ?_⟩
    · rw [movers_applied]
      exact List.mem_append_right _ (by simp [Op.entersExecuting, hid])
    · cases hack : record.executionAcknowledgement with
      | none => rfl
      | some a => exact absurd hnil (hM5.1.1.1 record hget (by simp [hack]))
    · rw [← hcid, ← hrid]
      exact Table.get_put_self _ _
    · rw [World.applied_log, List.mem_append] at hcall
      exact hM5.1.1.2 c s' (hcall.resolve_right (by simp))
  have hrunId : run.runId = p.runId := hrid.trans hcid
  let W (v : Timed ι) : Prop := Won p i run none (fun _ => False) v.world ∧ run.updatedAt ≤ v.time
  have hW (v v' : Timed ι) (hr : DuplicatesRely p i v v') (h : W v) : W v' :=
    ⟨h.1.rely hr, h.2.trans hr.time⟩
  have hW5 : W w5' := ⟨hwon, hupdated.le.trans (hM5.2.trans hev5.time)⟩
  refine timed_clock_bind (D := duplicates p acknowledge) (K := W)
    (fun v v' hr _ h => hW v v' hr h) hW5 (fun _ => trivial)
    fun issuedAt w6 w6' _ hW6 _ _ hw6 _ hev6 => ?_
  have hW6' : W w6' := ⟨hw6 ▸ hW6.1, hW6.2.trans hev6.time⟩
  refine .bind (appendEvent_duplicates (K := W) hW (fun v op s t hvt hruns hrecs h =>
      ⟨h.1.applied hruns (hrecs ▸ h.1.record), h.2.trans hvt⟩)
    (fun v t hvt h => ⟨h.1, h.2.trans hvt⟩) hW6') (fun _ w7 _ _ hW7 => ?_)
    fun _ _ _ _ h => by cases h.1
  refine fun w8 hr8 _ c hc => ?_
  cases hc
  have hW8 := hW w7 w8 hr8 hW7.2
  exact ⟨hW8.1, hW8.2, hstate, hrunId, congrArg ActionProposal.proposalId hproposal,
    hkey record rfl⟩

/-- Asking for reconciliation is allowed to every delivery. -/
theorem markRecoveryRequired_duplicates (code message : String) (w : Timed ι) :
    Safe (duplicates p acknowledge) i (markRecoveryRequired p.runId code message)
      (fun _ _ => True) w := by
  refine safe_catching (R := fun _ _ => True) ?_ (fun _ _ _ _ _ => safe_ret fun _ _ _ => trivial)
    (fun _ _ _ => safe_ret fun _ _ _ => trivial) fun _ _ _ _ => trivial
  refine timed_read_bind (K := fun _ => True) (fun _ _ _ _ _ => trivial) (o := .getRun p.runId)
    (·.runs.get p.runId) (fun _ => rfl) trivial (fun _ _ _ => trivial) fun w1 w1' _ _ _ _ _ => ?_
  cases hrun : w1.world.store.runs.get p.runId with
  | none => exact safe_ret fun _ _ _ => trivial
  | some run =>
    dsimp only
    split
    · rename_i hs
      refine timed_clock_bind (D := duplicates p acknowledge) (K := fun _ => True)
        (fun _ _ _ _ _ => trivial) trivial (fun _ => trivial) fun t w2 w2' _ _ _ ht _ _ _ => ?_
      refine timed_op_bind (D := duplicates p acknowledge) (K := fun v => t ≤ v.time)
        (fun v v' (hr : DuplicatesRely p i v v') _ h => h.trans hr.time) ht
        (fun v _ h => ⟨Table.key_of_get hrun, h, .inr (.inl ⟨rfl, hs⟩)⟩)
        (fun _ _ _ _ _ _ _ _ _ _ => safe_ret fun _ _ _ => trivial)
        fun _ _ _ _ _ _ _ _ _ _ => safe_raise fun _ _ _ => trivial
    · exact safe_ret fun _ _ _ => trivial

variable {run : Run} {command : StopExecutionCommand}

variable (acknowledge) in
/-- A winner that has lost the run only reads it. -/
theorem markRecoveryRequired_lost (code message : String)
    {ack : Option ExecutionAcknowledgement} {called : StopExecutionCommand → Prop}
    (hw : Won p i run ack called w.world ∧ Lost p i w.world) :
    Safe (duplicates p acknowledge) i (markRecoveryRequired p.runId code message)
      (fun o w => o = .ok (controlFailed .recoveryRequirement code message) ∧
        Won p i run ack called w.world ∧ Lost p i w.world) w := by
  let K (v : Timed ι) : Prop := Won p i run ack called v.world ∧ Lost p i v.world
  have hK (v v' : Timed ι) (hr : DuplicatesRely p i v v') (h : K v) : K v' :=
    ⟨h.1.rely hr, h.2.rely h.1.mover hr⟩
  refine safe_raising (R := fun o v => o = .ok () ∧ K v) ?_ (fun _ w1 _ _ h1 => ?_) fun _ _ _ _ h => ?_
  · refine timed_read_bind (D := duplicates p acknowledge) (K := K) (fun v v' hr _ h => hK v v' hr h)
      (o := .getRun p.runId) (·.runs.get p.runId) (fun _ => rfl) hw (fun _ _ _ => trivial)
      fun w1 w1' _ hK1 hw1 _ hev => ?_
    have hlog : w1.world.log <+: w1'.world.log := hev.log
    obtain ⟨hwon, run', hrun', hs, j, hj⟩ := hK1
    rw [hrun']
    dsimp only
    rw [if_neg (by simp [hs])]
    have hK1' : K w1' := by
      refine ⟨?_, run', ?_, hs, j, hj.mono hlog⟩
      · rw [hw1]
        exact hwon.applied rfl hwon.record
      · rw [hw1]
        exact hrun'
    exact fun w2 hr2 _ => ⟨rfl, hK w1' w2 hr2 hK1'⟩
  · exact fun w2 hr2 _ => ⟨rfl, hK w1 w2 hr2 h1.2⟩
  · cases h.1

/-- How an acknowledged delivery ends: the acknowledgement is recorded, and the run is `VERIFYING`,
    or another delivery has taken it to `RECOVERY_REQUIRED`. -/
def Settled (p : ActionProposal) (i : ι) (ack : ExecutionAcknowledgement)
    (o : Except PyExc (ControlResult ExecutionAcknowledgement)) (w : World ι) : Prop :=
  (∃ record, w.store.idempotency.get (deriveIdempotencyKey p) = some record ∧
    record.executionAcknowledgement = some ack) ∧
  ((∃ run, w.store.runs.get p.runId = some run ∧ run.state = .verifying ∧ o = .ok (.succeeded ack)) ∨
    Lost p i w ∧ o = .ok (controlFailed .recoveryRequirement "EXECUTION_ACK_DURABILITY_FAILED"
      "Executor acknowledgement could not be durably reconciled"))

theorem Won.settled {w : World ι} {ack : ExecutionAcknowledgement}
    {called : StopExecutionCommand → Prop} (h : Won p i run (some ack) called w)
    (hs : run.state = .verifying) : Settled p i ack (.ok (.succeeded ack)) w := by
  obtain ⟨record, hget, -, -, hack⟩ := h.record
  refine ⟨⟨record, hget, hack⟩, .inl ⟨run, ?_, hs, rfl⟩⟩
  refine h.run.resolve_right fun hlost => ?_
  rw [hs] at hlost
  cases hlost.1

theorem recordAcknowledgement_duplicates {ack : ExecutionAcknowledgement}
    {called : StopExecutionCommand → Prop} (hack : ack.proposalId = p.proposalId)
    (hwon : Won p i run none called w.world) (htime : run.updatedAt ≤ w.time)
    (hs : run.state = .executing) (hid : run.runId = p.runId) (proposalId : UUID) :
    Safe (duplicates p acknowledge) i
      (recordAcknowledgement run proposalId (deriveIdempotencyKey p) ack)
      (fun o w => Settled p i ack o w.world ∧ ∀ c s, .executed i c s ∈ w.world.log → called c) w := by
  have won {ack' : Option ExecutionAcknowledgement} {run' : Run} (v v' : Timed ι)
      (hr : DuplicatesRely p i v v') (h : Won p i run' ack' called v.world) :
      Won p i run' ack' called v'.world := h.rely hr
  refine safe_raising (R := fun o v => (o = .ok () ∧ ∃ run', run'.state = .verifying ∧
      Won p i run' (some ack) called v.world) ∨ ∃ x, o = .error x ∧ x.isStorage ∧
      Won p i run (some ack) called v.world ∧ Lost p i v.world) ?_ (fun _ w1 _ _ h1 => ?_)
    fun e w1 _ _ h1 => ?_
  · -- the acknowledgement is recorded
    let K (v : Timed ι) : Prop := Won p i run none called v.world ∧ run.updatedAt ≤ v.time
    have hK (v v' : Timed ι) (hr : DuplicatesRely p i v v') (_ : DuplicatesInv p v') (h : K v) :
        K v' := ⟨h.1.rely hr, h.2.trans hr.time⟩
    refine timed_op_bind (D := duplicates p acknowledge) (K := K) hK ⟨hwon, htime⟩
      (fun v _ h => h.1.mover) (fun r s w1 w1' _ hK1 hr hw1 _ hev1 => ?_)
      fun x w1 w1' _ hK1 hx _ _ _ _ => ?_
    · obtain ⟨r', s', hop, hwon1⟩ := hK1.1.acknowledged hack
      rw [hop] at hr
      cases hr
      rw [← hw1] at hwon1
      -- the time of the transition
      let L (v : Timed ι) : Prop := Won p i run (some ack) called v.world ∧ run.updatedAt ≤ v.time
      have hL (v v' : Timed ι) (hr : DuplicatesRely p i v v') (_ : DuplicatesInv p v') (h : L v) :
          L v' := ⟨h.1.rely hr, h.2.trans hr.time⟩
      refine timed_clock_bind (D := duplicates p acknowledge) (K := L) hL
        ⟨hwon1, hK1.2.trans hev1.time⟩ (fun _ => trivial)
        fun t w2 w2' _ hL2 ht ht' hw2 _ _ => ?_
      let M (v : Timed ι) : Prop := Won p i run (some ack) called v.world ∧ t ≤ v.time
      have hM (v v' : Timed ι) (hr : DuplicatesRely p i v v') (_ : DuplicatesInv p v') (h : M v) :
          M v' := ⟨h.1.rely hr, h.2.trans hr.time⟩
      rw [hid]
      refine timed_op_bind (D := duplicates p acknowledge) (K := M) hM ⟨hw2 ▸ hL2.1, ht'⟩
        (fun v _ h => ⟨rfl, h.2, .inr (.inr ⟨rfl, rfl, h.1.mover⟩)⟩)
        (fun run' s w3 w3' _ hM3 hop3 hw3 _ _ => ?_) fun x w3 w3' _ hM3 hop3 _ hw3 _ _ => ?_
      · -- it succeeded: the run is `VERIFYING`
        obtain ⟨run'', s'', hop', hs'', -, hwon3⟩ | hlost :=
          hM3.1.verifying hs (hL2.2.trans ht) (o := .transitionRun p.runId .verifying .executing
            run.version t none none) rfl
        · have heq := hop'.symm.trans hop3
          cases heq
          rw [← hw3] at hwon3
          refine (appendEvent_duplicates (K := fun v => Won p i run' (some ack) called v.world)
            (fun v v' hr h => h.rely hr) (fun v op s t _ hruns hrecs h =>
              h.applied hruns (hrecs ▸ h.record)) (fun v t _ h => h) hwon3).mono ?_
          exact fun o v _ h => .inl ⟨h.1, run', hs'', h.2⟩
        · -- a run that was lost is not `EXECUTING`
          obtain ⟨current, hc, hexec, -⟩ := Store.transitionRun_ok hop3
          obtain ⟨lost, hget, hrecovery, -⟩ := hlost
          rw [hget] at hc
          cases hc
          rw [hexec] at hrecovery
          cases hrecovery
      · -- it conflicted: the run was lost
        have hlost : Lost p i w3.world := by
          obtain ⟨run'', s'', hop', -⟩ | hlost :=
            hM3.1.verifying hs (hL2.2.trans ht) (o := .transitionRun p.runId .verifying .executing
              run.version t none none) rfl
          · cases hop'.symm.trans hop3
          · exact hlost
        have hstorage : x.isStorage := by
          obtain ⟨lost, hget, hrecovery, -⟩ := hlost
          change w3.world.store.transitionRun p.runId .verifying .executing run.version t none none =
            .error x at hop3
          simp only [Store.transitionRun, hget, Option.elim_some, bind, Except.bind, hrecovery,
            ne_eq, reduceCtorEq, not_false_eq_true, true_or, if_true] at hop3
          cases hop3
          rfl
        refine fun w4 hr4 _ => .inr ⟨x, rfl, hstorage, ?_, ?_⟩
        · exact (hw3 ▸ hM3.1 : Won p i run (some ack) called w3'.world).rely hr4
        · exact (hw3 ▸ hlost : Lost p i w3'.world).rely (hw3 ▸ hM3.1.mover) hr4
    · obtain ⟨r', s', hop, -⟩ := hK1.1.acknowledged hack
      cases hop.symm.trans hx
  · rcases h1 with ⟨-, run', hs', hwon'⟩ | ⟨x, hx, -⟩
    · intro w2 hr2 _
      have hwon2 := hwon'.rely hr2
      exact ⟨Won.settled hwon2 hs', hwon2.called⟩
    · cases hx
  · rcases h1 with ⟨he, -⟩ | ⟨x, hx, hstorage, hwon', hlost⟩
    · cases he
    · cases hx
      simp only [Flow.catching, hstorage, if_true, Option.getD_some, hid]
      refine (markRecoveryRequired_lost acknowledge _ _ ⟨hwon', hlost⟩).mono ?_
      rintro o v _ ⟨rfl, hwon2, hlost2⟩
      obtain ⟨record, hget, -, -, hrecorded⟩ := hwon2.record
      exact ⟨⟨⟨record, hget, hrecorded⟩, .inr ⟨hlost2, rfl⟩⟩, hwon2.called⟩

theorem callExecutor_duplicates
    (hack : ∀ command, (acknowledge command).proposalId = command.proposalId) {c : Claimed}
    (hwon : Won p i c.run none (fun _ => False) w.world) (htime : c.run.updatedAt ≤ w.time)
    (hs : c.run.state = .executing) (hid : c.run.runId = p.runId)
    (hcommand : c.command.proposalId = p.proposalId)
    (hkey : c.idempotency.idempotencyKey = deriveIdempotencyKey p) (proposalId : UUID) :
    Safe (duplicates p acknowledge) i (callExecutor proposalId c) (fun o w => ∀ command s,
      .executed i command s ∈ w.world.log → Settled p i (acknowledge command) o w.world) w := by
  refine safe_raising (R := fun o v => o = .ok (acknowledge c.command) ∧
    Won p i c.run none (· = c.command) v.world ∧ c.run.updatedAt ≤ v.time) ?_
    (fun ack w1 _ _ h1 => ?_) fun x _ _ _ h => ?_
  · let K (v : Timed ι) : Prop := Won p i c.run none (fun _ => False) v.world ∧ c.run.updatedAt ≤ v.time
    refine Safe.call_stable (D := duplicates p acknowledge) (K := K)
      (fun v v' (hr : DuplicatesRely p i v v') _ h => ⟨h.1.rely hr, h.2.trans hr.time⟩)
      ⟨hwon, htime⟩ fun w1 _ hK1 => ⟨hK1.1.mover, fun x w1' hx _ hev => ?_⟩
    obtain ⟨-, rfl, hw1⟩ := hx
    have hwon1 : Won p i c.run none (· = c.command) w1'.world := by
      rw [hw1]
      refine ⟨movers_mono (List.prefix_append _ _) hK1.1.mover, hK1.1.record, ?_, fun c' s hc => ?_⟩
      · obtain hrun | ⟨hexec, run', hrun', hs', j, hj⟩ := hK1.1.run
        · exact .inl hrun
        · exact .inr ⟨hexec, run', hrun', hs', j, hj.mono (List.prefix_append _ _)⟩
      · rw [World.logged_log, List.mem_append, List.mem_singleton] at hc
        rcases hc with hc | hc
        · exact (hK1.1.called c' s hc).elim
        · cases hc
          rfl
    exact fun w2 (hr : DuplicatesRely p i w1' w2) _ =>
      ⟨rfl, hwon1.rely hr, hK1.2.trans (hev.time.trans hr.time)⟩
  · obtain ⟨hanswer, hwon1, htime1⟩ := h1
    cases hanswer
    rw [hkey]
    refine (recordAcknowledgement_duplicates ((hack c.command).trans hcommand) hwon1 htime1 hs hid
      proposalId).mono fun o v _ h command s hc => ?_
    rw [h.2 command s hc]
    exact h.1
  · cases h.1

theorem reconcileExisting_duplicates (key : String) (existing : IdempotencyRecord) (w : Timed ι) :
    Safe (duplicates p acknowledge) i (reconcileExisting p key existing) (fun _ _ => True) w := by
  unfold reconcileExisting
  split
  · exact safe_ret fun _ _ _ => trivial
  split
  · refine safe_catching (R := fun _ _ => True) ?_ (fun run w1 _ _ _ => ?_)
      (fun _ _ _ => safe_ret fun _ _ _ => trivial) fun _ _ _ _ => trivial
    · exact timed_op (D := duplicates p acknowledge) (K := fun _ => True) (fun _ _ _ _ _ => trivial)
        trivial (fun _ _ _ => trivial) (fun _ _ _ _ _ _ _ _ _ _ => safe_ret fun _ _ _ => trivial)
        fun _ _ _ _ _ _ _ _ _ _ => safe_raise fun _ _ _ => trivial
    · split
      · exact safe_ret fun _ _ _ => trivial
      · exact markRecoveryRequired_duplicates _ _ _
  · split
    · exact markRecoveryRequired_duplicates _ _ _
    · split <;> exact safe_ret fun _ _ _ => trivial

theorem claimHandler_duplicates {x : PyExc} {h : Flow (ControlResult ExecutionAcknowledgement)}
    (hx : claimHandler p.runId x = some h) (w : Timed ι) :
    Safe (duplicates p acknowledge) i h (fun _ _ => True) w := by
  unfold claimHandler at hx
  split at hx <;> cases hx
  · exact safe_ret fun _ _ _ => trivial
  · exact markRecoveryRequired_duplicates _ _ _
  · exact safe_ret fun _ _ _ => trivial

/-- **A delivery**: if it has called the executor, it ends settled. -/
theorem execute_duplicates
    (hack : ∀ command, (acknowledge command).proposalId = command.proposalId)
    (hnone : NotCalled i w.world.log) :
    Safe (duplicates p acknowledge) i (execute p.proposalId) (fun o w => ∀ command s,
      .executed i command s ∈ w.world.log → Settled p i (acknowledge command) o w.world) w := by
  -- a delivery that has not called the executor has nothing to show
  have loses {v : Timed ι} {q : Flow (ControlResult ExecutionAcknowledgement)}
      (hq : q.Issues Req.nonStop) (hv : NotCalled i v.world.log)
      (h : Safe (duplicates p acknowledge) i q (fun _ _ => True) v) :
      Safe (duplicates p acknowledge) i q (fun o w => ∀ command s,
        .executed i command s ∈ w.world.log → Settled p i (acknowledge command) o w.world) v :=
    (notCalled_frame hq hv h).mono fun o v' _ h command s hc => absurd hc (h.1 command s)
  have ends (r : ControlResult ExecutionAcknowledgement) {v : Timed ι}
      (hv : NotCalled i v.world.log) : Safe (duplicates p acknowledge) i
      (.ret r : Flow (ControlResult ExecutionAcknowledgement)) (fun o w => ∀ command s,
        .executed i command s ∈ w.world.log → Settled p i (acknowledge command) o w.world) v :=
    loses trivial hv (safe_ret fun _ _ _ => trivial)
  let K (v : Timed ι) : Prop := NotCalled i v.world.log
  have hK (v v' : Timed ι) (hr : DuplicatesRely p i v v') (_ : DuplicatesInv p v') (h : K v) :
      K v' := fun c s hc => h c s (hr.called c s hc)
  have silent {v : World ι} {op : Op} {s : Store} (h : NotCalled i v.log) :
      NotCalled i (v.applied i op s).log := by
    intro c s' hc
    rw [World.applied_log, List.mem_append] at hc
    exact h c s' (hc.resolve_right (by simp))
  refine safe_raising (R := fun o v => K v ∧ o = .ok (some p)) ?_ (fun found w1 _ _ h1 => ?_)
    fun x _ _ _ h => ?_
  · refine timed_op (D := duplicates p acknowledge) (K := K) hK hnone (fun _ _ _ => trivial)
      (fun v s w1 w1' hI1 hK1 hv hw1 _ _ => ?_) fun x _ _ _ _ hx _ _ _ _ => ?_
    · cases hv
      have hK1' : NotCalled i w1'.world.log := by
        rw [hw1]
        exact silent hK1
      exact fun w2 hr hI => ⟨hK w1' w2 hr hI hK1', congrArg Except.ok hI1.proposal⟩
    · cases hx
  · obtain ⟨hnone1, hfound⟩ := h1
    cases hfound
    dsimp only
    refine safe_raising (R := fun o v => K v ∧ (o = .ok none → AckSound p v) ∧ o.isOk) ?_
      (fun found w2 _ _ h2 => ?_) fun x _ _ _ h => ?_
    · refine timed_op (D := duplicates p acknowledge) (K := K) hK hnone1 (fun _ _ _ => trivial)
        (fun v s w2 w2' hI2 hK2 hv hw2 _ _ => ?_) fun x _ _ _ _ hx _ _ _ _ => ?_
      · cases hv
        have hK2' : NotCalled i w2'.world.log := by
          rw [hw2]
          exact silent hK2
        refine fun w3 hr hI => ⟨hK w2' w3 hr hI hK2', fun hn => hr.acknowledged ?_, rfl⟩
        -- an action that was not registered has no acknowledgement
        intro record hget
        rw [hw2, World.applied_store] at hget
        rw [show w2.world.store.idempotency.get (deriveIdempotencyKey p) = none from
          Except.ok.inj hn] at hget
        cases hget
      · cases hx
    · obtain ⟨hnone2, hsound, -⟩ := h2
      cases found with
      | none =>
        refine safe_raising (notCalled_frame ((claim_plain ..).mono Req.nonStop_of_plain) hnone2
          (claim_duplicates w2 (hsound rfl) hnone2)) (fun c w3 _ _ h3 => ?_) fun x w3 _ _ h3 => ?_
        · obtain ⟨hwon, htime, hs, hid, hcommand, hkey⟩ := h3.2 c rfl
          exact callExecutor_duplicates hack hwon htime hs hid hcommand hkey _
        · cases hx : claimHandler p.runId x with
          | none => exact loses trivial h3.1 (safe_raise fun _ _ _ => trivial)
          | some h =>
            exact loses ((claimHandler_plain hx).mono Req.nonStop_of_plain) h3.1
              (claimHandler_duplicates hx w3)
      | some existing =>
        exact loses ((reconcileExisting_plain ..).mono Req.nonStop_of_plain) hnone2
          (reconcileExisting_duplicates ..)
    · cases h.2.2
  · cases h.2

end StopSandboxInstanceCoordinator

open StopSandboxInstanceCoordinator

section Disturbed

open Environment

variable {e : Environment} {p : ActionProposal} {m : List ι} {st : Solo ι} {x : Picture} {b : Nat}
  {who : ι}

namespace StopSandboxInstanceCoordinator

theorem requireApprovedRecords_strict (proposalId : UUID) :
    Strict (requireApprovedRecords proposalId) := by
  refine (strict_op _).bind fun found => ?_
  cases found with
  | none => trivial
  | some proposal =>
    dsimp only
    split
    · trivial
    refine (strict_op _).bind fun found => ?_
    cases found with
    | none => trivial
    | some approval =>
      dsimp only
      split
      · trivial
      refine (strict_op _).bind fun found => ?_
      cases found with
      | none => trivial
      | some run =>
        dsimp only
        split <;> trivial

theorem loadExecutionPrerequisites_strict (proposalId : UUID) :
    Strict (loadExecutionPrerequisites proposalId) := by
  refine (requireApprovedRecords_strict proposalId).bind fun ⟨run, proposal, approval⟩ => ?_
  refine (strict_op _).bind fun found => ?_
  cases found with
  | none => trivial
  | some record =>
    dsimp only
    split
    · trivial
    refine (strict_op _).bind fun found => ?_
    cases found with
    | none => trivial
    | some checkpoint =>
      dsimp only
      split
      · trivial
      split <;> trivial

theorem claim_strict (proposal : ActionProposal) (proposalId : UUID) :
    Strict (claim proposal proposalId) := by
  have silent {r : Req} {α : Type} {k : r.Ans → Flow α} (hr : ∀ op, r ≠ .store op)
      (hk : ∀ x, Strict (k x)) : Strict (.call r k) := by
    refine ⟨hk, ?_⟩
    cases r with
    | store op => exact absurd rfl (hr op)
    | _ => trivial
  refine silent (fun _ h => by cases h) fun registeredAt => ?_
  refine Strict.bind (p := registerApprovedAction proposalId registeredAt) ?_ fun record => ?_
  · refine (requireApprovedRecords_strict proposalId).bind fun ⟨run, proposal, approval⟩ => ?_
    exact (strict_ofExcept _).bind fun record => strict_op _
  refine (loadExecutionPrerequisites_strict proposalId).bind fun prerequisites => ?_
  refine silent (fun _ h => by cases h) fun updatedAt => ?_
  refine (strict_op _).bind fun run => silent (fun _ h => by cases h) fun issuedAt => ?_
  refine Strict.bind (p := appendEvent ..) ?_ fun _ => trivial
  refine silent (fun _ h => by cases h) fun eventId => silent (fun _ h => by cases h) fun t => ?_
  exact (strict_op _).bind fun _ => trivial

theorem accepted_of_other {op : Op} (hop : op.appendsAudit = false) (s : Store) :
    (Req.store op).Accepted s := fun h => by
  rw [hop] at h
  cases h

theorem markRecoveryRequired_accepted (runId : UUID) (code message : String) :
    (markRecoveryRequired runId code message).Issues fun r => ∀ s, r.Accepted s := by
  refine Flow.issues_catching (Flow.issues_op_bind.mpr ⟨accepted_of_other rfl, fun run => ?_⟩)
    trivial fun _ => trivial
  cases run with
  | none => trivial
  | some run =>
    dsimp only
    split
    · exact ⟨fun _ => trivial, fun _ => Flow.issues_op_bind.mpr
        ⟨accepted_of_other rfl, fun _ => trivial⟩⟩
    · trivial

/-- A duplicate that asks for reconciliation appends no audit event. -/
theorem reconcileExisting_accepted (proposal : ActionProposal) (key : String)
    (existing : IdempotencyRecord) :
    (reconcileExisting proposal key existing).Issues fun r => ∀ s, r.Accepted s := by
  unfold reconcileExisting
  split
  · trivial
  split
  · refine Flow.issues_catching (Flow.issues_op.mpr (accepted_of_other rfl)) trivial fun run => ?_
    split
    · trivial
    · exact markRecoveryRequired_accepted ..
  · split
    · exact markRecoveryRequired_accepted ..
    · split <;> trivial

/-- A run that needs reconciliation already is left alone. -/
theorem wp_markRecoveryRequired_settled (h : Stands e p m st x (b + 1))
    (hs : x.run.state = .recoveryRequired) (code message : String) :
    e.Wp who (markRecoveryRequired p.runId code message) (fun o st' =>
      o = .ok (controlFailed .recoveryRequirement code message) ∧ Stands e p m st' x b) st := by
  refine wp_try (R := fun o st' => o = .ok () ∧ Stands e p m st' x b) ?_ ?_ ?_
  · refine wp_read_bind h rfl h.getRun fun st1 h1 => ?_
    dsimp only
    rw [if_neg (by simp [hs])]
    exact wp_ret ⟨rfl, h1⟩
  · rintro _ st1 ⟨-, h1⟩
    exact wp_ret ⟨rfl, h1⟩
  · rintro y st1 ⟨hy, -⟩
    cases hy

/-- The winner's transition conflicts with the duplicate's. -/
theorem wp_record_disturbed (who : ι) (h : Stands e p m st x (b + 4)) (hs : x.run.state = .recoveryRequired)
    (hreg : x.record.status = .registered) (hnone : x.record.executionAcknowledgement = none)
    (hpid : x.record.proposalId = p.proposalId) {ack : ExecutionAcknowledgement} (hfor : ack.For p)
    {run : Run} (hid : run.runId = p.runId) {body : Flow Unit}
    (hbody : body = do
      let _ ← Flow.op (.recordExecutionAcknowledgement (deriveIdempotencyKey p) ack .registered)
      let updatedAt ← Flow.clock
      let run ← Flow.op (.transitionRun run.runId .verifying .executing run.version updatedAt none
        none)
      appendEvent run .executionAcknowledged ack.acknowledgementHash
        (Dict.ofPairs [("proposal_id", p.proposalId.str)])) :
    e.Wp who body (fun o st' => o = .error (.storageConflict
        "durable run state or version no longer matches") ∧ ∃ record : IdempotencyRecord,
      record.executionAcknowledgement = some ack ∧
      Stands e p m st' { x with record := record } (b + 1)) st ∧ e.Accepts who body st := by
  subst hbody
  obtain ⟨record, s, hop, -, hack, h1⟩ := h.acknowledged who hreg hnone hpid hfor
  have hconflict (t : Time) : (Op.transitionRun run.runId .verifying .executing run.version t none
      none).run (st.applied who (.recordExecutionAcknowledgement (deriveIdempotencyKey p) ack
        .registered) s).next.world.store =
      .error (.storageConflict "durable run state or version no longer matches") := by
    rw [hid]
    simp only [Op.run, Store.transitionRun, h1.next.run, Option.elim_some, bind, Except.bind, hs,
      ne_eq, reduceCtorEq, not_false_eq_true, true_or, if_true]
    rfl
  refine ⟨wp_op_bind hop (wp_clock_bind (wp_op_refused (hconflict _) ⟨rfl, record, hack, ?_⟩)),
    accepts_op_bind hop ⟨trivial, accepts_op_refused (hconflict _) rfl⟩⟩
  exact h1.next.next

end StopSandboxInstanceCoordinator

open StopSandboxInstanceCoordinator

/-- **The wrong moment**: a duplicate between the claim of the winner and its acknowledgement. -/
theorem exists_disturbed [DecidableEq ι] {r : Run} {c : Checkpoint}
    (acknowledge : StopExecutionCommand → ExecutionAcknowledgement)
    (h : Claimable e p [] st r c (b + 33))
    (hack : ∀ command, e.acknowledge command = .ok (acknowledge command))
    (hfor : ∀ command, command.proposalId = p.proposalId → command.runId = p.runId →
      command.target = p.target → (acknowledge command).For p) {i j : ι} (hij : j ≠ i) :
    ∃ (st' : Solo ι) (threads : ι → Flow (ControlResult ExecutionAcknowledgement)) (x : Picture)
        (command : StopExecutionCommand) (s : Store),
      Steps (Reliable acknowledge) ⟨e.timed st, fun _ => execute p.proposalId⟩ ⟨e.timed st', threads⟩ ∧
      Stands e p [i] st' x b ∧ x.run.state = .recoveryRequired ∧
      x.record.executionAcknowledgement = some (acknowledge command) ∧
      .executed i command s ∈ st'.world.log ∧
      threads i = .ret (controlFailed .recoveryRequirement "EXECUTION_ACK_DURABILITY_FAILED"
        "Executor acknowledgement could not be durably reconciled") ∧
      ∃ reply, threads j = .ret reply := by
  have read {op : Op} (hop : op.appendsAudit = false) {st : Solo ι} (who : ι) :
      e.Accepts who (Flow.op op) st :=
    accepts_of_issues (Flow.issues_op.mpr (accepted_of_other hop)) st
  -- the winner claims the action
  obtain ⟨o, st1, ⟨rfl, h1⟩, hs1⟩ := Wp.steps_try i (c := ⟨e.timed st, fun _ => execute p.proposalId⟩)
    (R := fun o st' => o = .ok (some p) ∧ Claimable e p [] st' r c (b + 32)) .refl hack
    (wp_op h.getProposal ⟨rfl, h.read _ _ rfl⟩) (read rfl i) rfl
  dsimp only at hs1
  obtain ⟨o, st2, ⟨rfl, h2⟩, hs2⟩ := Wp.steps_try i
    (R := fun o st' => o = .ok none ∧ Claimable e p [] st' r c (b + 31)) hs1 hack
    (wp_op h1.getIdempotency ⟨rfl, h1.read _ _ rfl⟩) (read rfl i) (Function.update_self ..)
  rw [Function.update_idem] at hs2
  dsimp only at hs2
  have hclaim : e.Wp i (claim p p.proposalId) _ st2 := wp_claim (b := b + 15) h2
  have haccepts : e.Accepts i (claim p p.proposalId) st2 := by
    obtain ⟨claimed, x, ho, -⟩ := hclaim
    exact accepts_of_strict (claim_strict ..) ho
  obtain ⟨o, st3, ⟨claimed, x, rfl, h3, hrun, hs, hreg, hnone, hpid, -, -, hcmd, hcmdrun, hcmdtarget,
    hkey⟩, hs3⟩ := Wp.steps_try i hs2 hack hclaim haccepts (Function.update_self ..)
  rw [Function.update_idem] at hs3
  dsimp only at hs3
  -- the duplicate finds it unresolved
  obtain ⟨o, st4, ⟨rfl, h4⟩, hs4⟩ := Wp.steps_try j
    (R := fun o st' => o = .ok (some p) ∧ Stands e p [i] st' x (b + 14)) hs3 hack
    (wp_op h3.getProposal ⟨rfl, h3.read _ _ rfl⟩) (read rfl j) (Function.update_of_ne hij ..)
  dsimp only at hs4
  obtain ⟨o, st5, ⟨rfl, h5⟩, hs5⟩ := Wp.steps_try j
    (R := fun o st' => o = .ok (some x.record) ∧ Stands e p [i] st' x (b + 13)) hs4 hack
    (wp_op h4.getIdempotency ⟨rfl, h4.read _ _ rfl⟩) (read rfl j) (Function.update_self ..)
  rw [Function.update_idem] at hs5
  dsimp only at hs5
  obtain ⟨o, st6, ⟨⟨reply, rfl⟩, run, hrecovery, h6⟩, hs6⟩ := Wp.steps j (f := .ret) hs5 hack
    (wp_reconcileExisting (b := b + 10) h5 (.inr hs) hreg hnone hpid)
    (accepts_of_issues (reconcileExisting_accepted ..) _)
    ((Function.update_self ..).trans (bind_ret _).symm)
  rw [Function.update_idem] at hs6
  -- the executor acknowledges
  obtain ⟨o, st7, ⟨rfl, h7, s, hlog7⟩, hs7⟩ := Wp.steps_try i
    (R := fun o st' => o = .ok (acknowledge claimed.command) ∧
      Stands e p [i] st' { x with run := run } (b + 9) ∧
      ∃ s, .executed i claimed.command s ∈ st'.world.log) hs6 hack
    (wp_stop ⟨hack _, h6.called, _, List.mem_append_right _ (List.mem_singleton.mpr rfl)⟩)
    (accepts_of_issues (Flow.issues_stop.mpr fun _ => trivial) _)
    ((Function.update_of_ne (Ne.symm hij) ..).trans (Function.update_self ..))
  dsimp only at hs7
  -- the transition of the winner conflicts
  have hid : claimed.run.runId = p.runId := hrun ▸ h3.run_id
  obtain ⟨hbody, haccepts⟩ := wp_record_disturbed i (b := b + 5) h7 hrecovery hreg hnone hpid
    (hfor _ hcmd hcmdrun hcmdtarget) hid rfl
  rw [hkey] at hs7
  obtain ⟨o, st8, ⟨⟨rfl, record, hack8, h8⟩, hlog8⟩, hs8⟩ := Wp.steps_try i hs7 hack
    (hbody.and (wp_log ..)) haccepts (Function.update_self ..)
  rw [Function.update_idem] at hs8
  have hcaught : PyExc.isStorage (.storageConflict "durable run state or version no longer matches") :=
    rfl
  simp only [Flow.catching, hcaught, if_true, Option.getD_some, hid] at hs8
  obtain ⟨o, st9, ⟨⟨rfl, h9⟩, hlog9⟩, hs9⟩ := Wp.steps i (f := .ret) hs8 hack
    ((wp_markRecoveryRequired_settled (b := b + 5) h8 hrecovery _ _).and (wp_log ..))
    (accepts_of_issues (markRecoveryRequired_accepted ..) _)
    ((Function.update_self ..).trans (bind_ret _).symm)
  refine ⟨st9, _, _, claimed.command, s, hs9, h9.mono (by omega), hrecovery, hack8,
    hlog9.subset (hlog8.subset hlog7), Function.update_self .., reply, ?_⟩
  simp only [Function.update_of_ne hij, Function.update_self]
  rfl

end Disturbed

end Duplicates

/-! ## The sample run -/

namespace Sample

open StopSandboxInstanceCoordinator

attribute [local instance] Sha256.standard

/-- The acknowledgement of the sample executor. -/
def acknowledgement (command : StopExecutionCommand) : ExecutionAcknowledgement :=
  ⟨command.proposalId, command.runId, command.target, .stopping, none, 0, ⟨0⟩, stopping_acknowledged⟩

/-- The approved sample run, and a time after its approval. -/
def timed : Timed Bool := ⟨⟨start.world.store, []⟩, 10⟩

/-- Two deliveries of the sample proposal, the second of which comes at the wrong moment. -/
theorem disturbed : ∃ (c : Config Bool (Timed Bool) Req Req.Ans PyExc
      (ControlResult ExecutionAcknowledgement)) (command : StopExecutionCommand) (s : Store) (run : Run),
    (∀ run, timed.world.store.runs.get proposal.runId = some run → run.updatedAt ≤ timed.time) ∧
    Steps (Reliable acknowledgement) ⟨timed, fun _ => execute proposal.proposalId⟩ c ∧
    .executed true command s ∈ c.world.world.log ∧
    c.world.world.store.runs.get proposal.runId = some run ∧ run.state = .recoveryRequired ∧
    c.threads true = .ret (controlFailed .recoveryRequirement "EXECUTION_ACK_DURABILITY_FAILED"
      "Executor acknowledgement could not be durably reconciled") ∧
    ∃ reply, c.threads false = .ret reply := by
  obtain ⟨r, checkpoint, h, -⟩ := claimable acknowledges
  have hclaim : Claimable (environment 10 acknowledges) proposal ([] : List Bool) ⟨timed.world, 0⟩ r
      checkpoint (57 + 33) := { h with movers := rfl }
  obtain ⟨st', threads, x, command, s, hsteps, hstands, hs, -, hlog, hwinner, hloser⟩ :=
    exists_disturbed acknowledgement (b := 57) hclaim (fun _ => rfl)
      (fun _ h1 h2 h3 => ⟨h1, h2, h3⟩) (i := true) (j := false) (by decide)
  refine ⟨⟨_, threads⟩, command, s, x.run, fun run hrun => ?_, hsteps, hlog, hstands.run, hs, hwinner,
    hloser⟩
  rw [hclaim.run] at hrun
  cases hrun
  exact hclaim.updated

end Sample

end CloudOpsAgent
