/-
  The closing writes of a stop run, with a fault at one of them.

  Both ways to success write the same four things, each on its own: the evidence, the result in the
  idempotency record, an audit event, and the transition into `SUCCESS_WITH_EVIDENCE`.  `Closing k`
  is what the first `k` of these writes leave of a picture.

  1. **The four writes** — struck at number `n`, they leave `Closing (fault.effective n)`.

  2. **`markRecoveryRequired`** — the failure handler moves an active run, and nothing else.

  3. **`persistSuccess`** and **`completeFromRecoveryObservation`** — the two flows around them.
-/
import CloudOpsAgent.Recovery.Symbolic

namespace CloudOpsAgent

open ClientProg ClientProg.Prog Environment

variable [Sha256] {ι : Type}

/-! ## The four writes -/

/-- The record is completed with the hash of the stored evidence. -/
def Picture.Proved (x : Picture) : Prop :=
  x.record.status = .completed ∧ ∃ v, x.evidence = some v ∧
    x.record.actionResult.any fun result => result.evidenceHash == some v.evidenceHash

/-- The run is closed: what recovery is for. -/
def Picture.Recovered (x : Picture) : Prop :=
  x.run.state = .successWithEvidence ∧ x.evidence.isSome ∧ x.record.status = .completed

/-- What `k` of the closing writes leave of `x`; the run may be marked for recovery besides. -/
structure Closing (k : Nat) (x x' : Picture) : Prop where
  active : k < 4 → x'.run.state = x.run.state ∨ x'.run.state = .recoveryRequired
  success : 4 ≤ k → x'.run.state = .successWithEvidence
  absent : k = 0 → x'.evidence = x.evidence
  stored : 1 ≤ k → x'.evidence.isSome
  unresolved : k < 2 → x'.record = x.record
  proved : 2 ≤ k → x'.Proved
  acknowledgement : x'.record.executionAcknowledgement = x.record.executionAcknowledgement
  checkpoint : x'.checkpoint = x.checkpoint

namespace Closing

variable {k n : Nat} {x x' y y' : Picture}

theorem refl (x : Picture) : Closing 0 x x where
  active _ := .inl rfl
  success h := by omega
  absent _ := rfl
  stored h := by omega
  unresolved _ := rfl
  proved h := by omega
  acknowledgement := rfl
  checkpoint := rfl

theorem struck (h : Closing n x y) (h' : Closing (n + 1) x y') (fault : Fault) :
    Closing (fault.effective n) x (if fault.mode.takesEffect then y' else y) := by
  unfold Fault.effective
  split
  · exact h'
  · exact h

/-- Marking an active run for recovery. -/
theorem marked (h : Closing k x y) {run : Run}
    (hrun : run.state = y.run.state ∨ y.run.state = .verifying ∧ run.state = .recoveryRequired) :
    Closing k x { y with run := run } :=
  { h with
    active := fun hk => by
      obtain hrun | ⟨-, hrun⟩ := hrun
      · rw [hrun]
        exact h.active hk
      · exact .inr hrun
    success := fun hk => by
      obtain hrun | ⟨hv, -⟩ := hrun
      · rw [hrun]
        exact h.success hk
      · rw [h.success hk] at hv
        cases hv }

theorem recovered (h : Closing k x y) (hk : 4 ≤ k) : y.Recovered :=
  ⟨h.success hk, h.stored (by omega), (h.proved (by omega)).1⟩

end Closing

variable {e : Environment} {p : ActionProposal} {m : List ι} {st : Solo ι} {x : Picture} {b n : Nat}
  {who : ι} {fault : Fault}

/-- The four writes, from a `VERIFYING` run without evidence. -/
theorem fwp_closing (who : ι) (fault : Fault) (n : ℕ) {β : Type} (h : Stands e p m st x (b + 8)) (hstate : x.run.state = .verifying)
    (hreg : x.record.status = .registered) (hnone : x.evidence = none) {run : Run}
    (hrun : run = x.run) {v : VerificationEvidence} (h1 : v.proposalId = p.proposalId)
    (h2 : v.runId = p.runId) (hd : Drawn e p st (b + 8) v.evidenceId)
    (hmatch : st.world.store.evidenceMatches v) (audit : Sha256Digest → Flow Unit)
    (haudit : ∀ st' x' b' n', Stands e p m st' x' (b' + 3) →
      e.FWp who fault (audit v.evidenceHash) (some n')
        (fun o => Struck fault 1 n' o ∧ Stands e p m o.final x' b') st')
    {g : VerificationEvidence → Run → β} :
    e.FWp who fault (do
      let evidence : VerificationEvidence ← Flow.op (.createVerificationEvidence v)
      let completedAt ← Flow.clock
      let _ ← Flow.op (.completeIdempotency (deriveIdempotencyKey p)
        (.stopped evidence.evidenceHash) completedAt .registered)
      audit evidence.evidenceHash
      let updatedAt ← Flow.clock
      let run' ← Flow.op (.transitionRun run.runId .successWithEvidence .verifying run.version
        updatedAt none (some p.proposalId))
      return g evidence run') (some n)
      (fun o => Struck fault 4 n o ∧ ∃ x', Stands e p m o.final x' b ∧
        Closing (fault.effective n) x x' ∧ (fault.effective n < 4 → x'.run = x.run)) st := by
  subst hrun
  have c0 := Closing.refl x
  -- the evidence
  obtain ⟨s1, hs1, st1⟩ := h.evidenced who hnone h1 h2 hd hmatch
  have c1 : Closing 1 x { x with evidence := some v } :=
    { c0 with
      active := fun _ => .inl rfl, success := fun h => by omega, absent := fun h => by omega
      stored := fun _ => rfl, unresolved := fun _ => rfl, proved := fun h => by omega }
  refine fwp_op_bind hs1 (fun hn => ?_) fun n1 hn1 => ?_
  · subst hn
    exact ⟨⟨fun _ => ⟨rfl, rfl⟩, fun k hk => by omega⟩, _, (h.struck st1 fault).mono (by omega),
      c0.struck c1 fault, fun _ => by split <;> rfl⟩
  -- the result
  refine fwp_clock_bind ?_
  obtain ⟨r, s2, hs2, hr, hr', hra, st2⟩ := st1.next.completed who hreg
    (.stopped v.evidenceHash) st1.registered
  have c2 : ∀ k, 2 ≤ k → k < 4 → Closing k x { x with evidence := some v, record := r } :=
    fun k hk hk' => { c0 with
      active := fun _ => .inl rfl, success := fun h => by omega, absent := fun h => by omega
      stored := fun _ => rfl, unresolved := fun h => by omega
      proved := fun _ => ⟨hr, v, rfl, by simp [hr', ActionResult.stopped]⟩
      acknowledgement := hra }
  refine fwp_op_bind hs2 (fun hn => ?_) fun n2 hn2 => ?_
  · obtain rfl : n = 1 := by omega
    exact ⟨⟨fun _ => ⟨rfl, rfl⟩, fun k hk => by omega⟩, _, (st1.next.struck st2 fault).mono (by omega),
      c1.struck (c2 2 (by omega) (by omega)) fault, fun _ => by split <;> rfl⟩
  -- the audit event
  refine fwp_bind_struck (haudit _ _ (b + 2) n2 st2) (fun hn st3 st3' => ?_)
    fun n3 _ st3 hn3 (st3' : Stands e p m st3 _ (b + 2)) => ?_
  · obtain rfl : n = 2 := by omega
    have := (c2 2 (by omega) (by omega)).struck (c2 3 (by omega) (by omega)) fault
    rw [ite_self] at this
    exact ⟨⟨fun _ => ⟨rfl, rfl⟩, fun k hk => by omega⟩, { x with evidence := some v, record := r },
      st3'.mono (by omega), this, fun _ => rfl⟩
  -- the transition
  refine fwp_clock_bind ?_
  obtain ⟨run', s4, hs4, hmoved, st4⟩ := st3'.next.transition who .verifying
    .successWithEvidence rfl hstate rfl (by decide) (by decide) (by decide)
    (t := e.now st3.tick) st3'.updated (e.now_mono (Nat.le_add_right _ 2))
    (some p.proposalId) (fun _ => ⟨rfl, v, rfl, hr, by simp [hr', ActionResult.stopped]⟩)
  have c4 : ∀ k, 4 ≤ k → Closing k x { x with evidence := some v, record := r, run := run' } :=
    fun k hk => { c2 2 (by omega) (by omega) with
      active := fun h => by omega, success := fun _ => hmoved.state
      absent := fun h => by omega, stored := fun _ => rfl, unresolved := fun h => by omega
      proved := fun _ => (c2 2 (by omega) (by omega)).proved (by omega) }
  refine fwp_op_bind hs4 (fun hn => ?_) fun n4 hn4 => ?_
  · obtain rfl : n = 3 := by omega
    refine ⟨⟨fun _ => ⟨rfl, rfl⟩, fun k hk => by omega⟩, _, st3'.next.struck st4 fault,
      (c2 3 (by omega) (by omega)).struck (c4 4 (by omega)) fault, fun hk => ?_⟩
    cases ht : fault.mode.takesEffect
    · rfl
    · rw [Fault.effective_of_true ht] at hk
      omega
  · have heff : 4 ≤ fault.effective n := (by omega : 4 ≤ n).trans fault.le_effective
    exact ⟨⟨fun h => by omega, fun k hk => ⟨congrArg some (by omega), _, rfl⟩⟩, _, st4, c4 _ heff,
      fun hk => by omega⟩

/-! ## Marking for recovery -/

/-- The transition of `markRecoveryRequired`. -/
theorem wp_mark (h : Stands e p m st x (b + 2)) {state : WorkflowState} (hs : x.run.state = state)
    (hstate : state = .verifying ∨ state = .executing) :
    e.Wp who (do
      let updatedAt ← Flow.clock
      let _ ← Flow.op (.transitionRun x.run.runId .recoveryRequired state x.run.version updatedAt
        none none)
      return) (fun o st' => o = .ok () ∧ ∃ run, run.state = .recoveryRequired ∧
        Stands e p m st' { x with run := run } b) st := by
  refine wp_clock_bind ?_
  obtain ⟨run, s, hs, hmoved, h'⟩ := h.next.transition who state
    .recoveryRequired rfl hs rfl (by rcases hstate with rfl | rfl <;> decide) (by decide)
    (by decide) (t := e.now st.tick) h.updated (e.now_mono (Nat.le_add_right _ 2))
    none (fun h => by cases h)
  exact wp_op_bind hs ⟨rfl, run, hmoved.state, h'⟩

theorem BoundedVerificationCoordinator.wp_markRecoveryRequired (h : Stands e p m st x (b + 3))
    {run : Run} (hr : run.runId = p.runId) :
    e.Wp who (markRecoveryRequired run) (fun o st' => o = .ok () ∧ ∃ run',
      run'.state = (if x.run.state = .verifying then .recoveryRequired else x.run.state) ∧
      Stands e p m st' { x with run := run' } b) st := by
  unfold markRecoveryRequired
  refine wp_try (R := fun o st' => o = .ok () ∧ ∃ run',
    run'.state = (if x.run.state = .verifying then .recoveryRequired else x.run.state) ∧
    Stands e p m st' { x with run := run' } b) ?_ (fun _ _ h' => wp_ret h') ?_
  · refine wp_read_bind h rfl (hr ▸ h.getRun) fun st1 h1 => ?_
    dsimp only
    split
    · rename_i hv
      refine (wp_mark h1 hv (.inl rfl)).mono ?_
      rintro o st' ⟨rfl, run', hrun', h'⟩
      exact ⟨rfl, run', hrun', h'⟩
    · exact wp_ret ⟨rfl, x.run, rfl, h1.mono (by omega)⟩
  · rintro y st' ⟨hy, -⟩
    cases hy

theorem RecoveryCoordinator.wp_markRecoveryRequired (h : Stands e p m st x (b + 3))
    {run : Run} (hr : run.runId = p.runId) :
    e.Wp who (markRecoveryRequired run) (fun o st' => o = .ok () ∧ ∃ run',
      run'.state = (if run.state ≠ .recoveryRequired ∧
        (x.run.state = .executing ∨ x.run.state = .verifying) then .recoveryRequired
        else x.run.state) ∧
      Stands e p m st' { x with run := run' } b) st := by
  unfold markRecoveryRequired
  split
  · rename_i hrr
    exact ⟨rfl, x.run, by simp [hrr], h.mono (by omega)⟩
  rename_i hrr
  refine wp_try (R := fun o st' => o = .ok () ∧ ∃ run',
    run'.state = (if x.run.state = .executing ∨ x.run.state = .verifying then .recoveryRequired
        else x.run.state) ∧
    Stands e p m st' { x with run := run' } b) ?_ (fun _ _ h' => wp_ret ?_) ?_
  · refine wp_read_bind h rfl (hr ▸ h.getRun) fun st1 h1 => ?_
    dsimp only
    split
    · rename_i hv
      refine (wp_mark h1 rfl hv.symm).mono ?_
      rintro o st' ⟨rfl, run', hrun', h'⟩
      exact ⟨rfl, run', hrun', h'⟩
    · exact wp_ret ⟨rfl, x.run, rfl, h1.mono (by omega)⟩
  · simpa only [hrr, ne_eq, not_false_eq_true, true_and] using h'
  · rintro y st' ⟨hy, -⟩
    cases hy

/-! ## `persistSuccess` -/

/-- An acknowledgement for the proposal. -/
def ExecutionAcknowledgement.For (ack : ExecutionAcknowledgement) (p : ActionProposal) : Prop :=
  ack.proposalId = p.proposalId ∧ ack.runId = p.runId ∧ ack.target = p.target

/-- The success handler of `persistSuccess`, whatever it was told. -/
theorem BoundedVerificationCoordinator.wp_persistFailed {α : Type} (h : Stands e p m st x (b + 3))
    {run : Run} (hr : run.runId = p.runId) {a : α} :
    e.Wp who (do markRecoveryRequired run; return a) (fun _ st' => ∃ run',
      run'.state = (if x.run.state = .verifying then .recoveryRequired else x.run.state) ∧
      Stands e p m st' { x with run := run' } b) st :=
  wp_bind (wp_markRecoveryRequired h hr) (fun _ _ h' => wp_ret h'.2) fun _ _ h' => h'.2

namespace BoundedVerificationCoordinator

/-- The evidence `persistSuccess` creates matches the picture. -/
theorem create_matches (h : Stands e p m st x b) (hstate : x.run.state = .verifying)
    {ack : ExecutionAcknowledgement} (hack : x.record.executionAcknowledgement = some ack)
    (hfor : ack.For p) (u : UUID) (t : Time) (hash : Sha256Digest) :
    ∃ v, VerificationEvidence.create u p x.run t ack hash = .ok v ∧ v.evidenceId = u ∧
      v.proposalId = p.proposalId ∧ v.runId = p.runId ∧ st.world.store.evidenceMatches v := by
  obtain ⟨h1, h2, h3⟩ := hfor
  simp only [VerificationEvidence.create, h.run_id, h1, h2, h3, not_true, or_self, if_false, ne_eq]
  refine ⟨_, rfl, rfl, rfl, rfl, ?_⟩
  simp only [Store.evidenceMatches, h.proposal, h.run, Store.evidenceRecord, Option.bind_some,
    h.record, hstate, Store.acknowledgementMatches, hack, VerificationProof.origin,
    VerificationProof.executionAcknowledgementHash, Option.any_some, beq_self_eq_true, Bool.and_self,
    Bool.true_or]

/-- The four writes of `persistSuccess`. -/
theorem fwp_persistSuccess (who : ι) (fault : Fault) (n : ℕ) (h : Stands e p m st x (b + 13))
    (hstate : x.run.state = .verifying)
    (hreg : x.record.status = .registered) (hnone : x.evidence = none)
    {ack : ExecutionAcknowledgement} (hack : x.record.executionAcknowledgement = some ack)
    (hfor : ack.For p) (observation : VerificationObservation) :
    e.FWp who fault (persistSuccess x.run p ack observation) (some n)
      (fun o => (4 ≤ n → o.left.isSome) ∧ ∃ x', Stands e p m o.final x' b ∧
        Closing (fault.effective n) x x') st := by
  unfold persistSuccess
  refine fwp_clock_bind (fwp_freshId_bind ?_)
  obtain ⟨v, hv, hu, h1, h2, hmatch⟩ := create_matches h.next.next hstate hack hfor
    (e.ids (st.tick + 1)) (e.now st.tick) observation.observationHash
  have hd : Drawn e p st.next.next (b + 11) v.evidenceId := by
    rw [hu]
    exact h.next.drawn
  simp only [Solo.next_tick, hv, ofExcept_ok, ret_bind]
  have hbody := fwp_closing who fault n (b := b + 3)
    (g := fun evidence _ => evidence) h.next.next hstate hreg hnone rfl h1 h2 hd hmatch
    (fun hash => appendEvent x.run .verificationRecorded hash
      (Dict.ofPairs [("proposal_id", p.proposalId.str),
        ("transition_candidate", WorkflowState.successWithEvidence.value)]))
    (fun st' x' b' n' h' => fwp_appendEvent h' h.run_id)
  refine fwp_try_struck hbody ?_ ?_ ?_
  · rintro hn - st' ⟨x', h', hc, -⟩
    exact ⟨fun hn' => by omega, x', h'.mono (by omega), hc⟩
  · rintro hn - st' ⟨x', h', hc, -⟩
    simp only [Flow.catching, fault.storage, if_true, Option.getD_some]
    refine (wp_persistFailed h' h.run_id).mono ?_
    rintro o st'' ⟨run', hrun', h''⟩
    refine ⟨fun hn' => by omega, _, h'', hc.marked ?_⟩
    split at hrun'
    · exact .inr ⟨‹_›, hrun'⟩
    · exact .inl hrun'
  · rintro k a st' hk ⟨x', h', hc, -⟩
    exact fwp_ret ⟨fun _ => rfl, x', h'.mono (by omega), hc⟩

/-- Without a fault, `persistSuccess` closes the run. -/
theorem wp_persistSuccess (h : Stands e p m st x (b + 13)) (hstate : x.run.state = .verifying)
    (hreg : x.record.status = .registered) (hnone : x.evidence = none)
    {ack : ExecutionAcknowledgement} (hack : x.record.executionAcknowledgement = some ack)
    (hfor : ack.For p) (observation : VerificationObservation) :
    e.Wp who (persistSuccess x.run p ack observation)
      (fun _ st' => ∃ x', Stands e p m st' x' b ∧ x'.Recovered) st := by
  refine wp_of_fwp .late 4 ?_
  obtain ⟨hl, x', h', hc⟩ := fwp_persistSuccess who .late 4 h hstate hreg hnone hack hfor observation
  exact ⟨hl le_rfl, fun _ _ => ⟨x', h', hc.recovered le_rfl⟩⟩

/-- Where other evidence is stored already, `persistSuccess` gives up. -/
theorem wp_persistSuccess_refused (h : Stands e p m st x (b + 6)) (hstate : x.run.state = .verifying)
    (hstored : x.evidence.isSome) {ack : ExecutionAcknowledgement}
    (hack : x.record.executionAcknowledgement = some ack) (hfor : ack.For p)
    (observation : VerificationObservation) :
    e.Wp who (persistSuccess x.run p ack observation)
      (fun _ st' => ∃ x', Stands e p m st' x' b ∧ x'.record = x.record) st := by
  obtain ⟨v, hv⟩ := Option.isSome_iff_exists.mp hstored
  unfold persistSuccess
  refine wp_clock_bind (wp_freshId_bind ?_)
  obtain ⟨w, hw, hu, h1, h2, -⟩ := create_matches h.next.next hstate hack hfor
    (e.ids (st.tick + 1)) (e.now st.tick) observation.observationHash
  have hd : Drawn e p st.next.next (b + 4) w.evidenceId := by
    rw [hu]
    exact h.next.drawn
  simp only [Solo.next_tick, hw, ofExcept_ok, ret_bind]
  refine wp_try (R := fun o st' => o = .error (.storageConflict
    "conflicting verification evidence already exists") ∧ Stands e p m st' x (b + 3)) ?_ ?_ ?_
  · exact wp_op_refused (h.next.next.evidence_refused hv h1 h2 hd) ⟨rfl, h.next.next.next⟩
  · rintro a st' ⟨ha, -⟩
    cases ha
  · rintro y st' ⟨hy, h'⟩
    cases hy
    refine (wp_persistFailed h' h.run_id).mono ?_
    rintro o st'' ⟨run', -, h''⟩
    exact ⟨_, h'', rfl⟩

end BoundedVerificationCoordinator

/-! ## `completeFromRecoveryObservation` -/

namespace RecoveryCoordinator

/-- The evidence of a lost acknowledgement matches the picture. -/
theorem create_matches (h : Stands e p m st x b) (hstate : x.run.state = .verifying)
    (hreg : x.record.status = .registered) (hack : x.record.executionAcknowledgement = none)
    (u : UUID) (t : Time) (hash : Sha256Digest) :
    ∃ v, VerificationEvidence.createFromRecovery u p x.run t hash = .ok v ∧ v.evidenceId = u ∧
      v.proposalId = p.proposalId ∧ v.runId = p.runId ∧ st.world.store.evidenceMatches v := by
  obtain ⟨a, ha, hdecision, -, ha2, -, ha4, -⟩ := h.approval
  simp only [VerificationEvidence.createFromRecovery, h.run_id, not_true, if_false, ne_eq]
  refine ⟨_, rfl, rfl, rfl, rfl, ?_⟩
  simp only [Store.evidenceMatches, h.proposal, h.run, Store.evidenceRecord, Option.bind_some,
    h.record, hstate, Store.recoveryMatches, hack, hreg, ha, hdecision, ha2, ha4,
    VerificationProof.origin, Option.isNone_none, Option.any_some, beq_self_eq_true, Bool.and_self,
    Bool.or_true]

theorem fwp_enterVerifying (who : ι) (fault : Fault) (n : ℕ) (h : Stands e p m st x (b + 2))
    (hs : x.run.state = .executing ∨ x.run.state = .recoveryRequired) :
    e.FWp who fault (enterVerifying x.run) (some n) (fun o => Struck fault 1 n o ∧
      ∃ run, run.state = .verifying ∧ (∀ a, o.outcome = some (.ok a) → a = run) ∧
        Stands e p m o.final
          (if n = 0 ∧ fault.mode.takesEffect = false then x else { x with run := run }) b) st := by
  unfold enterVerifying
  rw [if_pos hs]
  refine fwp_clock_bind ?_
  obtain ⟨run, s, hop, hmoved, h'⟩ := h.next.transition who x.run.state
    .verifying rfl rfl rfl (by rcases hs with hs | hs <;> rw [hs] <;> decide) (by decide)
    (by decide) (t := e.now st.tick) h.updated (e.now_mono (Nat.le_add_right _ 2))
    none (fun h => by cases h)
  refine fwp_op hop (fun hn => ?_) fun k hk => ?_
  · refine ⟨⟨fun _ => ⟨rfl, rfl⟩, fun k hk => by omega⟩, run, hmoved.state, fun a ha => ?_, ?_⟩
    · unfold Fault.outcome at ha
      split at ha <;> cases ha
    · have := h.next.struck h' fault
      cases hm : fault.mode.takesEffect <;> simpa [hm, hn] using this
  · refine ⟨⟨fun hn => by omega, fun j hj => ⟨congrArg some (by omega), _, rfl⟩⟩, run,
      hmoved.state, fun a ha => ?_, ?_⟩
    · cases ha
      rfl
    · rw [if_neg fun h => by omega]
      exact h'

/-- The four writes of a completion. -/
theorem fwp_completeBody (h : Stands e p m st x (b + 10)) (hstate : x.run.state = .verifying)
    (hreg : x.record.status = .registered) (hnone : x.evidence = none)
    (hack : x.record.executionAcknowledgement = none) (observation : VerificationObservation) :
    e.FWp who fault (completeBody p observation x.run) (some n) (fun o => Struck fault 4 n o ∧
      ∃ x', Stands e p m o.final x' b ∧ Closing (fault.effective n) x x' ∧
        (fault.effective n < 4 → x'.run = x.run)) st := by
  unfold completeBody
  refine fwp_freshId_bind (fwp_clock_bind ?_)
  obtain ⟨v, hv, hu, h1, h2, hmatch⟩ := create_matches h.next.next hstate hreg hack
    (e.ids st.tick) (e.now (st.tick + 1)) observation.observationHash
  have hd : Drawn e p st.next.next (b + 8) v.evidenceId := by
    rw [hu]
    exact h.drawn.next
  simp only [Solo.next_tick, hv, ofExcept_ok, ret_bind]
  exact fwp_closing _ _ _ (g := Prod.mk) h.next.next hstate hreg hnone rfl h1 h2 hd hmatch
    (fun hash => appendEvent x.run (some p) .recoveryCompleted "LOST_ACK_STOPPED_VERIFIED"
      hash) fun st' x' b' n' h' => fwp_appendEvent h' h.run_id

theorem wp_completeFailed (h : Stands e p m st x (b + 6)) {s : Snapshot} (hs : s.run.runId = p.runId)
    {run : Run} (hr : run.runId = p.runId) :
    e.Wp who (completeFailed s run) (fun _ st' => ∃ run',
      run'.state = (if run.state ≠ .recoveryRequired ∧
        (x.run.state = .executing ∨ x.run.state = .verifying) then .recoveryRequired
        else x.run.state) ∧ Stands e p m st' { x with run := run' } b) st := by
  unfold completeFailed
  refine wp_bind (wp_markRecoveryRequired h hr) ?_ ?_
  · rintro - st' ⟨-, run', hrun', h'⟩
    exact (wp_auditedFailure h' hs).mono fun _ _ h'' => ⟨run', hrun', h''⟩
  · rintro y st' ⟨hy, -⟩
    cases hy

theorem fwp_outcome (who : ι) (fault : Fault) (n : ℕ) (h : Stands e p m st x (b + 3)) {run : Run}
    (hr : run.runId = p.runId) {proposal : Option ActionProposal} (verdict : RecoveryVerdict)
    (type : AuditEventType) :
    e.FWp who fault (outcome run proposal verdict type) (some n)
      (fun o => (1 ≤ n → o.left.isSome) ∧ Stands e p m o.final x b) st := by
  unfold outcome
  have hd : Drawn e p st.next.next (b + 1) (e.ids st.tick) := h.drawn.next
  refine fwp_freshId_bind (fwp_try_struck (c := 1)
    (R := fun o => Stands e p m o.final x b) ?_ ?_ ?_ ?_)
  · refine fwp_clock_bind (fwp_audit_bind h.next.next hr hd (fun hn st' h' => ?_)
      fun k st' hk h' => ?_)
    · exact ⟨⟨fun _ => ⟨rfl, rfl⟩, fun k hk => by omega⟩, h'⟩
    · exact fwp_ret ⟨⟨fun h0 => by omega, fun j hj => ⟨congrArg some (by omega), _, rfl⟩⟩, h'⟩
  · exact fun hn _ st' h' => ⟨fun hn' => by omega, h'⟩
  · intro hn _ st' h'
    simp only [Flow.catching, fault.storage, if_true, Option.getD_some]
    exact wp_ret ⟨fun hn' => by omega, h'⟩
  · intro k a st' hk h'
    split
    · exact fwp_ret ⟨fun _ => rfl, h'⟩
    · exact ⟨fun _ => rfl, h'⟩

/-- What a completion from `x` leaves, struck at number `n`: the transition to `VERIFYING` comes
    before the four writes, and a handler marks the run unless it read `RECOVERY_REQUIRED`. -/
structure Completing (fault : Fault) (n : Nat) (x x' : Picture) : Prop where
  untouched : fault.effective n = 0 → x'.evidence = x.evidence ∧ x'.record = x.record ∧
    (x'.run.state = x.run.state ∨ x'.run.state = .recoveryRequired)
  closing : 1 ≤ fault.effective n → ∃ y : Picture, y.run.state = .verifying ∧
    y.evidence = x.evidence ∧ y.record = x.record ∧ Closing (fault.effective n - 1) y x'
  entered : fault.effective n = 1 → x'.run.state =
    if fault.mode.crashes ∨ n = 0 ∧ x.run.state = .recoveryRequired then .verifying
    else .recoveryRequired
  checkpoint : x'.checkpoint = x.checkpoint

theorem Completing.before {x' : Picture} (heff : fault.effective n = 0)
    (h1 : x'.evidence = x.evidence) (h2 : x'.record = x.record)
    (h3 : x'.run.state = x.run.state ∨ x'.run.state = .recoveryRequired)
    (h4 : x'.checkpoint = x.checkpoint) : Completing fault n x x' where
  untouched _ := ⟨h1, h2, h3⟩
  closing _ := by omega
  entered _ := by omega
  checkpoint := h4

theorem Completing.after {x' : Picture} {k : Nat} (heff : fault.effective n = k + 1) {run : Run}
    (hrun : run.state = .verifying) (hc : Closing k { x with run := run } x')
    (hentered : k = 0 → x'.run.state =
      if fault.mode.crashes ∨ n = 0 ∧ x.run.state = .recoveryRequired then .verifying
      else .recoveryRequired) : Completing fault n x x' where
  untouched _ := by omega
  closing _ := by
    rw [heff, Nat.add_sub_cancel]
    exact ⟨{ x with run := run }, hrun, rfl, rfl, hc⟩
  entered _ := hentered (by omega)
  checkpoint := hc.checkpoint

/-- `completeFromRecoveryObservation` of a run whose acknowledgement was lost. -/
theorem fwp_complete (who : ι) (fault : Fault) (n : ℕ) (h : Stands e p m st x (b + 18))
    (hs : x.run.state = .executing ∨ x.run.state = .recoveryRequired)
    (hreg : x.record.status = .registered) (hnone : x.evidence = none)
    (hack : x.record.executionAcknowledgement = none) {s : Snapshot} (hsrun : s.run = x.run)
    (observation : VerificationObservation) :
    e.FWp who fault (completeFromRecoveryObservation s p observation) (some n)
      (fun o => (6 ≤ n → o.left.isSome) ∧ ∃ x', Stands e p m o.final x' b ∧
        Completing fault n x x' ∧ (5 ≤ n → x'.Recovered)) st := by
  have hid : s.run.runId = p.runId := hsrun ▸ h.run_id
  have hcaught : isStorageOrValue fault.error = true := by
    rw [isStorageOrValue, fault.storage, Bool.true_or]
  unfold completeFromRecoveryObservation
  rw [hsrun]
  refine fwp_try_struck (fwp_enterVerifying _ _ _ (b := b + 16) h hs) ?_ ?_ ?_
  · -- crashed at the transition
    rintro hn hcrash st' ⟨run, hrun, -, h'⟩
    obtain rfl : n = 0 := by omega
    refine ⟨fun hn' => by omega, _, h'.mono (by omega), ?_, fun hn' => by omega⟩
    cases ht : fault.mode.takesEffect
    · rw [if_pos ⟨rfl, rfl⟩]
      exact .before (Fault.effective_of_false ht) rfl rfl (.inl rfl) rfl
    · rw [if_neg fun h => by cases h.2]
      exact .after (Fault.effective_of_true ht) hrun (.refl _) fun _ => by
        rw [if_pos (.inl hcrash)]
        exact hrun
  · -- the transition failed: the handler knows the run as it was read
    rintro hn hcrash st' ⟨run, hrun, -, h'⟩
    obtain rfl : n = 0 := by omega
    simp only [Flow.catching, hcaught, if_true, Option.getD_some]
    cases ht : fault.mode.takesEffect
    · rw [if_pos ⟨rfl, ht⟩] at h'
      refine (wp_completeFailed (b := b) (h'.mono (by omega)) hid h.run_id).mono ?_
      rintro o st'' ⟨run', hrun', h''⟩
      refine ⟨fun hn' => by omega, _, h'', ?_, fun hn' => by omega⟩
      refine .before (Fault.effective_of_false ht) rfl rfl ?_ rfl
      split at hrun'
      · exact .inr hrun'
      · exact .inl hrun'
    · rw [if_neg fun h => by simp [ht] at h] at h'
      refine (wp_completeFailed (b := b) (h'.mono (by omega)) hid h.run_id).mono ?_
      rintro o st'' ⟨run', hrun', h''⟩
      refine ⟨fun hn' => by omega, _, h'', ?_, fun hn' => by omega⟩
      simp only [hrun, or_true, and_true, ne_eq, ite_not] at hrun'
      refine .after (Fault.effective_of_true ht) hrun ((Closing.refl _).marked ?_) fun _ => ?_
      · split at hrun'
        · exact .inl (hrun'.trans hrun.symm)
        · exact .inr ⟨hrun, hrun'⟩
      · simp only [hcrash, Bool.false_eq_true, false_or, true_and]
        exact hrun'
  · rintro k run st' hk ⟨run', hrun, hrun', h'⟩
    obtain rfl := hrun' run rfl
    rw [if_neg fun h => by omega] at h'
    have heff : fault.effective n = fault.effective k + 1 := by rw [hk, Fault.effective_succ]
    refine fwp_try_struck (fwp_completeBody (b := b + 6) h' hrun hreg hnone hack observation) ?_ ?_ ?_
    · -- crashed at one of the writes
      rintro hk' hcrash st'' ⟨x', h'', hc, hsame⟩
      refine ⟨fun hn' => by omega, x', h''.mono (by omega), .after heff hrun hc fun h0 => ?_,
        fun hn' => by omega⟩
      rw [if_pos (.inl hcrash), hsame (by omega)]
      exact hrun
    · -- one of the writes failed
      rintro hk' hcrash st'' ⟨x', h'', hc, hsame⟩
      simp only [Flow.catching, hcaught, if_true, Option.getD_some]
      refine (wp_completeFailed (b := b) h'' hid h'.run_id).mono ?_
      rintro o st3 ⟨run', hrun', h3⟩
      have hne : run.state ≠ .recoveryRequired := by
        rw [hrun]
        decide
      refine ⟨fun hn' => by omega, _, h3, .after heff hrun (hc.marked ?_) fun h0 => ?_,
        fun hn' => by omega⟩
      · by_cases hk4 : fault.effective k < 4
        · rw [hsame hk4, if_pos ⟨hne, .inr hrun⟩] at hrun'
          exact .inr ⟨hsame hk4 ▸ hrun, hrun'⟩
        · rw [hc.success (by omega)] at hrun' ⊢
          exact .inl (hrun'.trans (if_neg (by simp)))
      · rw [hsame (by omega), if_pos ⟨hne, .inr hrun⟩] at hrun'
        rw [if_neg (by simp [hcrash]; omega)]
        exact hrun'
    · rintro j ⟨ev, run'⟩ st'' hj ⟨x', h'', hc, -⟩
      obtain ⟨hl, h3⟩ := fwp_outcome who fault j (b := b)
        (h''.mono (by omega)) h.run_id
        { verifiedVerdict "LOST_ACK_RECONCILED_FROM_READ_BACK"
                "Independent stopped-state proof closed the approved lost-ACK action"
                ev.evidenceHash none (some observation.observedState) with
              finalState := some run'.state } .recoveryCompleted
      have h4 : 4 ≤ fault.effective k := (by omega : 4 ≤ k).trans fault.le_effective
      exact ⟨fun hn' => hl (by omega), x', h3, .after heff hrun hc fun h0 => by omega,
        fun _ => hc.recovered h4⟩

end RecoveryCoordinator

end CloudOpsAgent
