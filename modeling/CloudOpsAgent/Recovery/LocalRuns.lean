/-
  One local run, executed symbolically.

  All the local workflow looks at of a run is two records, the run and its checkpoint, and the
  inventory.  `Stages e r inv st run c` says that they stand so, and that the clock has not been
  turned back.  For each step of the workflow there is one lemma: that it succeeds, and how things
  stand afterwards.  An audit event is the one step that may be refused, where the audit log is full.
-/
import CloudOpsAgent.Flow.LocalSolo
import CloudOpsAgent.Recovery.Symbolic
import CloudOpsAgent.Safety.Decision

namespace CloudOpsAgent

open ClientProg ClientProg.Prog LocalEnvironment

variable [Sha256] {ι : Type}

/-! ## How things stand -/

/-- The audit events of a repository. -/
abbrev AuditLog := Table fun event : AuditEvent => (event.runId, event.eventId)

/-- The records of a local run, the audit log, the inventory, and a clock not turned back. -/
structure Stages (e : LocalEnvironment) (r : UUID) (inv : Inventory) (log : AuditLog)
    (st : LocalSolo ι) (run : Run) (c : Checkpoint) : Prop where
  stored : st.store.runs.get r = some run
  saved : st.store.checkpoints.get r = some c
  inventory : st.world.inventory = inv
  log : st.store.auditEvents = log
  updated : run.updatedAt ≤ e.now st.tick

/-- An audit event of the run would be accepted. -/
def AuditRoom (cfg : LocalHitlConfig) (log : AuditLog) (run : Run) (metadata : Dict String String) :
    Prop :=
  cfg.sensitive ((metadata.insert "trace_id" run.traceId.str).insert "correlation_id"
    run.correlationId.str) = false ∧ log.countKeys (·.1 = run.runId) < MAX_AUDIT_EVENTS_PER_RUN

namespace Stages

variable {e : LocalEnvironment} {r : UUID} {inv : Inventory} {log : AuditLog} {st : LocalSolo ι}
  {run : Run} {c : Checkpoint} {who : ι}

/-- A request that leaves the world alone. -/
theorem next (h : Stages e r inv log st run c) : Stages e r inv log st.next run c where
  stored := h.stored
  saved := h.saved
  inventory := h.inventory
  log := h.log
  updated := h.updated.trans (e.now_mono (Nat.le_succ _))

/-- A read. -/
theorem read (h : Stages e r inv log st run c) (op : Op) :
    Stages e r inv log (st.applied who op st.store) run c :=
  ⟨h.stored, h.saved, h.inventory, h.log, h.updated.trans (e.now_mono (Nat.le_succ _))⟩

/-- An allowed transition whose proof is there, at a time just read. -/
theorem move (h : Stages e r inv log st run c) (who : ι) {next expected : WorkflowState}
    {a v : Option UUID} (hexp : run.state = expected)
    (hn : next ∈ ALLOWED_WORKFLOW_TRANSITIONS expected)
    (hdecision : st.store.decisionCheck r next a = .ok ())
    (hsuccess : st.store.successCheck r next v = .ok ()) :
    ∃ run' s, (Op.transitionRun run.runId next expected run.version (e.now st.tick) a v).run
        st.next.store = .ok (run', s) ∧
      run.MovedTo next (e.now st.tick) run' ∧
      Stages e r inv log (st.next.applied who (.transitionRun run.runId next expected run.version
        (e.now st.tick) a v) s) run' c := by
  have hid := Table.key_of_get h.stored
  change run.runId = r at hid
  subst hexp hid
  obtain ⟨run', hrun'⟩ : ∃ run', transitionRun run next (e.now st.tick) = .ok run' := by
    simp [transitionRun, validateWorkflowTransition, hn, h.updated]
  obtain ⟨-, -, h1, -, h2, h3, h4, h5, -⟩ := transitionRun_ok hrun'
  refine ⟨run', { st.store with runs := st.store.runs.put run' }, ?_, ⟨h1, h2, h3, h4, h5⟩,
    ?_, h.saved, h.inventory, h.log, ?_⟩
  · simp only [Op.run, Store.transitionRun, LocalSolo.store, LocalSolo.next_world, h.stored,
      Option.elim_some, bind, Except.bind, hdecision, hsuccess, hrun', if_false, not_true, or_self,
      ne_eq]
    rfl
  · rw [← h3]
    exact Table.get_put_self _ _
  · rw [h2]
    exact e.now_mono (by simp; omega)

/-- The next version of the stored checkpoint. -/
theorem save (h : Stages e r inv log st run c) (who : ι) (c' : Checkpoint) (hid : c'.runId = c.runId)
    (hv : c'.version = c.version + 1) :
    ∃ s, (Op.saveCheckpoint c' (some c.version)).run st.store = .ok (c', s) ∧
      Stages e r inv log (st.applied who (.saveCheckpoint c' (some c.version)) s) run c' := by
  have hkey := Table.key_of_get h.saved
  change c.runId = r at hkey
  have hrun : c'.runId = r := hid.trans hkey
  refine ⟨{ st.store with checkpoints := st.store.checkpoints.put c' }, ?_, h.stored, ?_,
    h.inventory, h.log, h.updated.trans (e.now_mono (Nat.le_succ _))⟩
  · simp only [Op.run, Store.saveCheckpoint, hrun, h.saved, hv, ne_eq, not_true, or_self, if_false]
    rfl
  · change (st.store.checkpoints.put c').get r = some c'
    rw [← hrun]
    exact Table.get_put_self _ _

/-- An audit event under an unused identifier is appended if there is room. -/
theorem append (h : Stages e r inv log st run c) (who : ι) (event : AuditEvent) (hrun : event.runId = r)
    (hunused : log.get (r, event.eventId) = none)
    (hroom : log.countKeys (·.1 = r) < MAX_AUDIT_EVENTS_PER_RUN) :
    ∃ s, (Op.appendAuditEvent event).run st.store = .ok (event, s) ∧
      Stages e r inv (log.put event) (st.applied who (.appendAuditEvent event) s) run c := by
  subst hrun
  refine ⟨{ st.store with auditEvents := st.store.auditEvents.put event }, ?_, h.stored, h.saved,
    h.inventory, ?_, h.updated.trans (e.now_mono (Nat.le_succ _))⟩
  · have hlt : ¬MAX_AUDIT_EVENTS_PER_RUN ≤ log.countKeys (·.1 = event.runId) := by omega
    simp only [Op.run, Store.appendAuditEvent, Store.countAuditEvents, h.log, hunused,
      Option.isSome_none, Bool.false_eq_true, if_false, hlt]
    rfl
  · change st.store.auditEvents.put event = _
    rw [h.log]

/-- Without room it is refused. -/
theorem full (h : Stages e r inv log st run c) {event : AuditEvent} (hrun : event.runId = r)
    (hunused : log.get (r, event.eventId) = none)
    (hroom : ¬log.countKeys (·.1 = r) < MAX_AUDIT_EVENTS_PER_RUN) :
    (Op.appendAuditEvent event).run st.store =
      .error (.storageConflict "audit event capacity is exhausted for this run") := by
  subst hrun
  simp only [Op.run, Store.appendAuditEvent, Store.countAuditEvents, h.log, hunused,
    Option.isSome_none, Bool.false_eq_true, if_false, if_pos (not_lt.mp hroom)]
  rfl

/-- A used identifier is refused. -/
theorem taken (h : Stages e r inv log st run c) {event : AuditEvent} (hrun : event.runId = r)
    (hused : log.get (r, event.eventId) ≠ none) :
    (Op.appendAuditEvent event).run st.store =
      .error (.storageConflict "audit event already exists") := by
  subst hrun
  simp only [Op.run, Store.appendAuditEvent, h.log, Option.isSome_iff_ne_none.mpr hused, if_true]
  rfl

end Stages

/-! ## Steps of the flows -/

namespace LocalHitlExecutionFlow

variable {e : LocalEnvironment} {r : UUID} {inv : Inventory} {log : AuditLog} {st : LocalSolo ι}
  {run : Run} {c : Checkpoint} {who : ι}

theorem wp_load (h : Stages e r inv log st run c) : e.Wp who (load r) (fun o st' =>
    o = .ok (loadedOf (some run) (some c)) ∧ st'.tick = st.tick + 2 ∧
      Stages e r inv log st' run c) st := by
  refine ends_try (R := fun o st' => o = .ok (some run, some c) ∧ st'.tick = st.tick + 2 ∧
    Stages e r inv log st' run c) ?_ (fun x st' hx => ?_) fun x st' hx => ?_
  · refine wp_op_bind (v := some run) (s := st.store) ?_ (wp_op_bind (v := some c) (s := st.store) ?_
      ⟨rfl, rfl, (h.read (.getRun r)).read (.getCheckpoint r)⟩)
    · rw [← h.stored]
      rfl
    · rw [← h.saved]
      rfl
  · obtain ⟨hx, ht, h'⟩ := hx
    cases hx
    exact ⟨rfl, ht, h'⟩
  · obtain ⟨hx, -⟩ := hx
    cases hx

/-- Saving the next version of the stored checkpoint. -/
theorem wp_saveNext (h : Stages e r inv log st run c) {safe : WorkflowState}
    {metadata : List (String × String)} {update : CheckpointFields → CheckpointFields}
    (hid : (update c.toCheckpointFields).runId = c.runId)
    (hvalid : ∀ t m, { update c.toCheckpointFields with
      createdAt := t, lastSafeState := safe, resumeMetadata := m,
      version := c.version + 1 }.violation = none) :
    e.Wp who (saveNext c safe metadata update) (fun o st' => ∃ c' t m, o = .ok c' ∧
      c'.toCheckpointFields = { update c.toCheckpointFields with
        createdAt := t, lastSafeState := safe, resumeMetadata := m, version := c.version + 1 } ∧
      st'.tick = st.tick + 2 ∧ Stages e r inv log st' run c') st := by
  have hfields := hvalid (e.now st.tick)
    (metadata.foldl (fun d kv => d.insert kv.1 (.str kv.2)) c.resumeMetadata)
  obtain ⟨s, hs, h'⟩ := h.next.save who ⟨_, hfields⟩ hid rfl
  refine .bind (R := fun o st' => o = .ok ⟨_, hfields⟩ ∧ st' = st.next) ?_ (fun n st' hn => ?_)
    fun x st' hx => ?_
  · refine wp_clock_bind (ends_ofExcept ⟨?_, rfl⟩)
    rw [Checkpoint.validate_of_violation hfields]
  · obtain ⟨hn, rfl⟩ := hn
    cases hn
    exact wp_op hs ⟨_, _, _, rfl, rfl, rfl, h'⟩
  · obtain ⟨hx, -⟩ := hx
    cases hx

/-- The audit event a flow appends. -/
structure Audited (e : LocalEnvironment) (st : LocalSolo ι) (r : UUID) (type : AuditEventType)
    (hash : Sha256Digest) (event : AuditEvent) : Prop where
  runId : event.runId = r
  eventId : event.eventId = e.ids st.tick
  type : event.type = type
  hash : event.redactedPayloadHash = hash

/-- An audit event is appended, or refused and nothing changes; under an unused identifier it is
    refused only where there is no room for it. -/
theorem wp_appendEvent (h : Stages e r inv log st run c) {cfg : LocalHitlConfig} {run' : Run}
    (hid : run'.runId = r) (type : AuditEventType) (hash : Sha256Digest)
    (metadata : Dict String String) :
    e.Wp who (appendEvent cfg run' type hash metadata) (fun o st' =>
      (o = .ok () ∧ AuditRoom cfg log run' metadata ∧ ∃ event, Audited e st r type hash event ∧
        st'.tick = st.tick + 3 ∧ Stages e r inv (log.put event) st' run c) ∨
      ∃ x, o = .error x ∧ (x.isStorage || x.isValueError) ∧ Stages e r inv log st' run c ∧
        (log.get (r, e.ids st.tick) = none → ¬AuditRoom cfg log run' metadata)) st := by
  refine wp_freshId_bind (wp_clock_bind ?_)
  dsimp only
  split
  · rename_i hsensitive
    refine .inr ⟨_, rfl, rfl, h.next.next, fun _ h => ?_⟩
    exact absurd (hsensitive.symm.trans h.1) (by decide)
  rename_i hsensitive
  have hsensitive := Bool.eq_false_iff.mpr hsensitive
  by_cases hunused : log.get (r, e.ids st.tick) = none
  · by_cases hroom : log.countKeys (·.1 = r) < MAX_AUDIT_EVENTS_PER_RUN
    · obtain ⟨s, hs, h'⟩ := h.next.next.append who {
        eventId := e.ids st.tick
        runId := run'.runId
        type := type
        timestamp := e.now st.next.tick
        source := "local-hitl"
        redactedPayloadHash := hash
        metadata := (metadata.insert "trace_id" run'.traceId.str).insert "correlation_id"
          run'.correlationId.str } hid hunused hroom
      exact wp_op_bind hs (.inl ⟨rfl, ⟨hsensitive, hid ▸ hroom⟩, _, ⟨hid, rfl, rfl, rfl⟩,
        rfl, h'⟩)
    · exact wp_op_refused (h.next.next.full hid hunused hroom)
        (.inr ⟨_, rfl, rfl, h.next.next.next, fun _ h => hroom (hid ▸ h.2)⟩)
  · exact wp_op_refused (h.next.next.taken hid hunused)
      (.inr ⟨_, rfl, rfl, h.next.next.next, fun h => absurd h hunused⟩)

end LocalHitlExecutionFlow

end CloudOpsAgent
