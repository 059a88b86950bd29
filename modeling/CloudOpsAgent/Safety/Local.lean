/-
  The local flow under the discipline of success.

  What the local flow holds is either the stored checkpoint or stale, and a stale one cannot be
  written over: receipt and verification, once checkpointed, stay (`ProofKept`).  So a checkpoint in
  hand is `Tracked`, every write of the flow is allowed over it, and what `resume` reports is the
  stored proof.
-/
import CloudOpsAgent.Safety.Recovery

namespace CloudOpsAgent

open ClientProg ClientProg.Prog Flow

variable [Sha256] {ι : Type} {isLocal : UUID → Bool} {i : ι} {w : World ι}

/-! ## Checkpoints in hand -/

/-- A later version of a checkpoint that keeps its proof. -/
def CheckpointFollows (c c' : Checkpoint) : Prop :=
  CheckpointEvolves c c' ∧ ProofKept c.toCheckpointFields c'.toCheckpointFields

theorem CheckpointFollows.refl (c : Checkpoint) : CheckpointFollows c c :=
  ⟨.refl c, .refl c.toCheckpointFields⟩

theorem CheckpointFollows.trans {c c' c'' : Checkpoint} (h : CheckpointFollows c c')
    (h' : CheckpointFollows c' c'') : CheckpointFollows c c'' := ⟨h.1.trans h'.1, h.2.trans h'.2⟩

/-- The checkpoint of a local run, read from or written to an earlier store. -/
structure Tracked (isLocal : UUID → Bool) (s : Store) (c : Checkpoint) : Prop where
  isLocal : isLocal c.runId = true
  known : s.checkpoints.Known CheckpointFollows c

theorem Tracked.grows {w w' : World ι} (h : GrowsKept w w') {c : Checkpoint}
    (hc : Tracked isLocal w.store c) : Tracked isLocal w'.store c := by
  refine ⟨hc.isLocal, hc.known.evolves (fun _ _ _ h1 h2 => h1.trans h2) fun k d hd => ?_⟩
  obtain ⟨d1, h1, hev⟩ := h.1.1.checkpoints k d hd
  obtain ⟨d2, h2, hkept⟩ := h.2 k d hd
  rw [h1] at h2
  cases h2
  exact ⟨d1, h1, hev, hkept⟩

/-- A checkpoint without a receipt has nothing to keep. -/
theorem ProofKept.of_receipt {c : Checkpoint} (h : c.localExecutionReceipt = none)
    (c' : CheckpointFields) : ProofKept c.toCheckpointFields c' := by
  have hver : c.localVerification = none := by simpa [h] using c.chain.1
  constructor
  · rw [h]
    exact fun r hr => by cases hr
  · rw [hver]
    exact fun v hv => by cases hv

/-- Neither has one without a decision. -/
theorem ProofKept.of_approval {c : Checkpoint} (h : c.localApproval = none)
    (c' : CheckpointFields) : ProofKept c.toCheckpointFields c' := by
  obtain ⟨-, h2, h3, -⟩ := c.chain
  have hint : c.localExecutionIntent = none := by simpa [h] using h3
  exact .of_receipt (by simpa [hint] using h2) c'

namespace LocalHitlExecutionFlow

/-- No write of the flow gives up proof. -/
theorem Succeeds.proofKept {c next : Checkpoint} (h : Succeeds c next) :
    ProofKept c.toCheckpointFields next.toCheckpointFields := by
  obtain ⟨createdAt, safe, metadata, update, hw, hnext⟩ := h
  rw [hnext]
  cases hw with
  | request h r => exact .of_approval h _
  | decision h a => exact .of_approval h _
  | intent h n =>
    have hrec : c.localExecutionReceipt = none := by simpa [h] using c.chain.2.1
    exact .of_receipt hrec _
  | receipt h r => exact .of_receipt h _
  | verification h v =>
    refine ⟨fun _ h => h, fun v' hv => ?_⟩
    rw [h] at hv
    cases hv
  | state a => exact ⟨fun _ h => h, fun _ h => h⟩
  | closed => exact ⟨fun _ h => h, fun _ h => h⟩

/-- A write of the flow may be saved over a checkpoint in hand. -/
theorem Succeeds.allowed {c next : Checkpoint} (h : Succeeds c next)
    (hc : Tracked isLocal w.store c) :
    successAllowed isLocal w (.store (.saveCheckpoint next (some c.version))) := by
  refine ⟨fun hcloud => ?_, fun h => (by cases h), fun current hcur hv => ?_⟩
  · rw [h.runId, hc.isLocal] at hcloud
    cases hcloud
  · obtain ⟨d, hd, hev, -⟩ := hc.known
    rw [h.runId, hd] at hcur
    cases hcur
    injection hv with hv
    rw [hev.eq_of_version hv.symm]
    exact h.proofKept

/-- **The local flow tracks its checkpoint** under the discipline of success. -/
def successTracking : Tracking (successDiscipline (ι := ι) isLocal) i where
  tracked := Tracked isLocal
  evolves h := h.1.1
  grows h := Tracked.grows h
  loaded {w r c} hI hget hp := by
    obtain rfl := Table.key_of_get hget
    refine ⟨?_, .of_get CheckpointFollows.refl hget⟩
    cases hl : isLocal c.runId with
    | true => rfl
    | false =>
      rw [SuccessInv.cloudCheckpoint hI _ c hget hl] at hp
      cases hp
  save _ hc h := h.allowed hc
  saved {s c next} hc h := by
    refine ⟨?_, .of_get (k := next.runId) CheckpointFollows.refl (Table.get_put_self _ _)⟩
    rw [h.runId]
    exact hc.isLocal

/-! ## The entry points -/

theorem requestApproval_safe (cfg : LocalHitlConfig) (runId : UUID)
    (principal : LocalOperatorPrincipal) (w : World ι) :
    Safe (successDiscipline isLocal) i (requestApproval cfg runId principal) (fun _ _ => True) w :=
  successTracking.requestApproval_safe cfg runId principal w

theorem decide_safe (cfg : LocalHitlConfig) (d : LocalDecisionRequest)
    (principal : LocalOperatorPrincipal) (w : World ι) :
    Safe (successDiscipline isLocal) i (decide cfg d principal) (fun _ _ => True) w :=
  successTracking.decide_safe cfg d principal w

/-- What a success of the local flow reports: the run has succeeded, and receipt and verification
    are those of its checkpoint. -/
structure Proven (s : Store) (c : LocalExecutionCompletion) : Prop where
  run : ∃ run, s.runs.get c.runId = some run ∧ run.state = .successWithEvidence
  checkpoint : ∃ d r v, s.checkpoints.get c.runId = some d ∧
    c.receipt = some r ∧ d.localExecutionReceipt = some r ∧
    c.verification = some v ∧ d.localVerification = some v

/-- What is taken from a run and a checkpoint in hand is stored. -/
theorem proven_of_reported {s : Store} {x : LocalExecutionCompletion}
    (h : (successTracking : Tracking (successDiscipline (ι := ι) isLocal) i).Reported s x) :
    Proven s x := by
  obtain ⟨run, c, r, v, hl, hs, hid, h1r, h2r, h1v, h2v⟩ := h
  obtain ⟨run', hr', hs'⟩ := hl.run.terminal (by rw [hs]; decide)
  obtain ⟨d, hd, -, hkept⟩ := hl.checkpoint.known
  refine ⟨⟨run', hid ▸ hr', hs'.trans hs⟩, d, r, v, ?_, h1r, hkept.receipt r h2r, h1v,
    hkept.verification v h2v⟩
  rw [hid, ← hl.same]
  exact hd

/-- The post-condition of `resume`. -/
def Post (o : Except PyExc (ControlResult LocalExecutionCompletion)) (w : World ι) : Prop :=
  ∀ c, o = .ok (.succeeded c) → c.finalState = .successWithEvidence → Proven w.store c

/-- **`resume` keeps the discipline**, and a success it reports is the run's stored proof. -/
theorem resume_safe (cfg : LocalHitlConfig) (runId : UUID) (principal : LocalOperatorPrincipal)
    (w : World ι) :
    Safe (successDiscipline isLocal) i (resume cfg runId principal) Post w :=
  (successTracking.resume_safe cfg runId principal w).mono fun _ _ _ h x hx hs =>
    proven_of_reported (h x hx hs)

end LocalHitlExecutionFlow

end CloudOpsAgent
