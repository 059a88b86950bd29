/-
  The recovery lease excludes.

  `recover` decides on the lease with the checkpoint it read at its start and saves its claim later,
  so exclusion can only come from the version check.  It does: a claim replaces the very checkpoint
  whose lease it has found expired (`rewrite_allowed`), and every other write of `recover` leaves the
  lease alone.  So the lease stored for a run always runs at least as long as that of any claim made
  so far (`LeaseInv`), and the next claim comes after it.

  Nothing is assumed of the clock: a claim compares the time it reads with the stored lease.
-/
import CloudOpsAgent.Safety.Rewrites

namespace CloudOpsAgent

open ClientProg ClientProg.Prog

section

variable [Sha256] {ι : Type}

/-! ## Claims in a history -/

/-- The lease of a checkpoint, as `_claim_active_recovery` reads it. -/
def Checkpoint.leaseText (c : Checkpoint) : Option String :=
  (c.resumeMetadata.lookup "recovery_lease_expires_at").bind Json.str?

/-- The claims made on a run, in order: the replacements that set its lease. -/
def leaseClaims (r : UUID) (log : List (Event ι)) : List (Rewrite ι) :=
  (rewrites log).filter fun x => x.next.runId = r ∧ x.next.leaseText ≠ x.base.leaseText

namespace RecoveryCoordinator

theorem claimFields_lease (cfg : RecoveryConfig) (run : Run) (proposal : ActionProposal)
    (c : Checkpoint) (now : Time) (claimId : UUID) :
    ((claimFields cfg run proposal c now claimId).resumeMetadata.lookup
      "recovery_lease_expires_at").bind Json.str? =
        some (Time.isoformat (now + seconds cfg.leaseSeconds)) := by
  rw [claimFields, Finmap.lookup_insert_of_ne _ (by decide), Finmap.lookup_insert]
  rfl

variable {cfg : RecoveryConfig} {c next : Checkpoint}

/-- What a claim has read and what it writes; `next.createdAt` is the time it read. -/
theorem ClaimWrite.spec (h : ClaimWrite cfg c next) :
    leaseFailure c next.createdAt = none ∧
      next.createdAt + seconds cfg.leaseSeconds ≤ Time.datetimeMax ∧
      next.leaseText = some (Time.isoformat (next.createdAt + seconds cfg.leaseSeconds)) ∧
      ∃ run proposal claimId,
        next.toCheckpointFields = claimFields cfg run proposal c next.createdAt claimId := by
  obtain ⟨run, proposal, now, claimId, hfree, hrange, hnext⟩ := h
  have hnow : next.createdAt = now := by rw [hnext, claimFields]
  subst hnow
  refine ⟨hfree, hrange, ?_, run, proposal, claimId, hnext⟩
  rw [Checkpoint.leaseText, hnext]
  exact claimFields_lease ..

/-- A lease that stood in nobody's way at `now` has expired by then. -/
theorem le_of_leaseFailure {now t : Time} (hfree : leaseFailure c now = none)
    (hlease : c.leaseText = some (Time.isoformat t)) (ht : t ≤ Time.datetimeMax) : t ≤ now := by
  have hparse := Time.fromisoformat_isoformat ht
  unfold leaseFailure at hfree
  rw [Checkpoint.leaseText] at hlease
  simp only [hlease, hparse] at hfree
  by_contra hlt
  rw [if_pos (not_le.mp hlt)] at hfree
  cases hfree

/-- A claim sets the lease. -/
theorem ClaimWrite.leaseText_ne (h : ClaimWrite cfg c next) : next.leaseText ≠ c.leaseText := by
  obtain ⟨hfree, hrange, hlease, -⟩ := h.spec
  intro heq
  have hle := le_of_leaseFailure hfree (heq.symm.trans hlease) hrange
  have hpos : 0 < seconds cfg.leaseSeconds := by
    have := cfg.lease_ok.1
    simp only [seconds]
    omega
  exact absurd hle (not_le.mpr (Nat.lt_add_of_pos_right hpos))

end RecoveryCoordinator

/-- An interrupt leaves the lease alone. -/
theorem DurableApprovalFlow.InterruptWrite.leaseText {c next : Checkpoint}
    (h : DurableApprovalFlow.InterruptWrite c next) : next.leaseText = c.leaseText := by
  obtain ⟨interruptId, requestHash, proposalId, createdAt, h⟩ := h
  rw [Checkpoint.leaseText, h, DurableApprovalFlow.interruptFields,
    Finmap.lookup_insert_of_ne _ (by decide), Finmap.lookup_insert_of_ne _ (by decide),
    Finmap.lookup_insert_of_ne _ (by decide), Checkpoint.leaseText]

/-! ## The invariant -/

section Invariant

variable {leaseSeconds : ι → Nat} {r : UUID}

/-- The later of two claims comes when the earlier one's lease has run out, on a later version. -/
def Spaced (leaseSeconds : ι → Nat) (a b : Rewrite ι) : Prop :=
  a.next.createdAt + seconds (leaseSeconds a.who) ≤ b.next.createdAt ∧
    a.base.version < b.base.version

/-- The stored lease runs at least as long as that of the claim `x`. -/
structure Covers (leaseSeconds : ι → Nat) (x : Rewrite ι) (current : Checkpoint) : Prop where
  version : x.base.version < current.version
  lease : ∃ t, current.leaseText = some (Time.isoformat t) ∧ t ≤ Time.datetimeMax ∧
    x.next.createdAt + seconds (leaseSeconds x.who) ≤ t

/-- The claims made on a run so far are spaced, and its stored lease covers them. -/
structure LeaseInv (leaseSeconds : ι → Nat) (r : UUID) (w : World ι) : Prop where
  spaced : (leaseClaims r w.log).Pairwise (Spaced leaseSeconds)
  covered : ∀ x ∈ leaseClaims r w.log,
    ∃ current, w.store.checkpoints.get r = some current ∧ Covers leaseSeconds x current

/-- What a client of the lease may replace. -/
def LeaseWrite (setups : ι → RecoverySetup) (i : ι) (base next : Checkpoint) : Prop :=
  RecoveryCoordinator.ClaimWrite (setups i).config base next ∨
    DurableApprovalFlow.InterruptWrite base next

variable {setups : ι → RecoverySetup} {i : ι} {w w' : World ι}

/-- A replacement that is no claim on the run leaves its claims as they are. -/
theorem leaseClaims_of_rewrites (h : rewrites w'.log = rewrites w.log) :
    leaseClaims r w'.log = leaseClaims r w.log := by rw [leaseClaims, h, leaseClaims]

/-- **One more replacement**, the stored checkpoint of its run being replaced. -/
theorem LeaseInv.replaced (hw : LeaseInv (fun j => (setups j).leaseSeconds) r w)
    {base next : Checkpoint} (hget : w.store.checkpoints.get next.runId = some base)
    (hv : next.version = base.version + 1) (hown : LeaseWrite setups i base next)
    (hput : w'.store.checkpoints = w.store.checkpoints.put next)
    (hlog : rewrites w'.log = rewrites w.log ++ [⟨i, base, next⟩]) :
    LeaseInv (fun j => (setups j).leaseSeconds) r w' := by
  have hclaims : leaseClaims r w'.log = leaseClaims r w.log ++
      ([⟨i, base, next⟩] : List (Rewrite ι)).filter fun x =>
        x.next.runId = r ∧ x.next.leaseText ≠ x.base.leaseText := by
    rw [leaseClaims, hlog, List.filter_append, leaseClaims]
  by_cases hr : next.runId = r
  · subst hr
    have hcover {x : Rewrite ι} (hx : x ∈ leaseClaims next.runId w.log) :
        Covers (fun j => (setups j).leaseSeconds) x base := by
      obtain ⟨current, hcur, hx⟩ := hw.covered x hx
      rw [hget] at hcur
      cases hcur
      exact hx
    have hcurrent : w'.store.checkpoints.get next.runId = some next := by
      rw [hput]
      exact Table.get_put_self _ _
    by_cases hlease : next.leaseText = base.leaseText
    · -- the lease stays, under the next version
      rw [List.filter_cons_of_neg (by simp [hlease]), List.filter_nil, List.append_nil] at hclaims
      refine ⟨hclaims ▸ hw.spaced, fun x hx => ⟨next, hcurrent, ?_⟩⟩
      obtain ⟨hversion, t, ht, hrange, hle⟩ := hcover (hclaims ▸ hx)
      exact ⟨by omega, t, hlease.trans ht, hrange, hle⟩
    · -- a claim: the lease it has found covers the claims before it
      rw [List.filter_cons_of_pos (by simp [hlease]), List.filter_nil] at hclaims
      obtain hclaim | hinterrupt := hown
      · obtain ⟨hfree, hrange, htext, -⟩ := hclaim.spec
        have hspaced : ∀ x ∈ leaseClaims next.runId w.log,
            Spaced (fun j => (setups j).leaseSeconds) x ⟨i, base, next⟩ := by
          intro x hx
          obtain ⟨hversion, t, ht, hrange', hle⟩ := hcover hx
          have hexpired := RecoveryCoordinator.le_of_leaseFailure hfree ht hrange'
          exact ⟨hle.trans hexpired, hversion⟩
        refine ⟨?_, fun x hx => ⟨next, hcurrent, ?_⟩⟩
        · rw [hclaims, List.pairwise_append]
          refine ⟨hw.spaced, List.pairwise_singleton _ _, fun x hx y hy => ?_⟩
          rw [List.mem_singleton.mp hy]
          exact hspaced x hx
        · rw [hclaims, List.mem_append, List.mem_singleton] at hx
          refine ⟨?_, _, htext, hrange, ?_⟩
          · obtain hx | rfl := hx
            · have := (hspaced x hx).2
              dsimp only at this
              omega
            · dsimp only
              omega
          · obtain hx | rfl := hx
            · exact (hspaced x hx).1.trans (Nat.le_add_right _ _)
            · exact le_rfl
      · exact absurd hinterrupt.leaseText hlease
  · rw [List.filter_cons_of_neg (by simp [hr]), List.filter_nil, List.append_nil] at hclaims
    refine ⟨hclaims ▸ hw.spaced, fun x hx => ?_⟩
    obtain ⟨current, hcur, hx⟩ := hw.covered x (hclaims ▸ hx)
    refine ⟨current, ?_, hx⟩
    rw [hput, Table.get_put_of_ne w.store.checkpoints (Ne.symm hr)]
    exact hcur

/-- **One request** keeps the invariant, where the replacement it may be is one of `recover`. -/
theorem LeaseInv.step (hw : LeaseInv (fun j => (setups j).leaseSeconds) r w) {q : Req} {x : q.Ans}
    (hx : answers i w q x w')
    (hown : ∀ y ∈ rewrites w'.log, LeaseWrite setups y.who y.base y.next) :
    LeaseInv (fun j => (setups j).leaseSeconds) r w' := by
  obtain ⟨hsame, hlog⟩ | ⟨c, hnone, hput, hlog⟩ | ⟨base, next, -, hget, hv, hput, hlog⟩ :=
    answers_rewrites hx
  · refine ⟨leaseClaims_of_rewrites hlog ▸ hw.spaced, fun y hy => ?_⟩
    rw [hsame]
    exact hw.covered y (leaseClaims_of_rewrites hlog ▸ hy)
  · refine ⟨leaseClaims_of_rewrites hlog ▸ hw.spaced, fun y hy => ?_⟩
    obtain ⟨current, hcur, hy⟩ := hw.covered y (leaseClaims_of_rewrites hlog ▸ hy)
    refine ⟨current, ?_, hy⟩
    rw [hput]
    exact Table.get_put_of_get hnone hcur
  · exact hw.replaced hget hv (hown ⟨i, base, next⟩ (by rw [hlog]; simp)) hput hlog

end Invariant

/-! ## Exclusion -/

namespace RecoveryCoordinator

/-- A claim that succeeds is among the claims on its run. -/
theorem claimActiveRecovery_claims {own : ι → Checkpoint → Checkpoint → Prop}
    {cfg : RecoveryConfig} {i : ι} (hown : ∀ c next, ClaimWrite cfg c next → own i c next)
    (run : Run) (proposal : ActionProposal) {c : Checkpoint} {w : World ι}
    (hc : w.store.KnowsVersion c) :
    Safe (rewriteDiscipline own) i (claimActiveRecovery cfg run proposal (some c))
      (fun o w' => ∀ saved, o = .ok (.succeeded saved) →
        ⟨i, c, saved⟩ ∈ leaseClaims c.runId w'.log) w := by
  refine (claimActiveRecovery_rewrites hown run proposal fun c' h => ?_).mono
    fun o w' _ h saved hsaved => ?_
  · cases h
    exact hc
  · obtain ⟨c', hc', hwrite, hmem⟩ := h saved hsaved
    cases hc'
    exact List.mem_filter.mpr ⟨hmem, by simp [hwrite.runId, hwrite.leaseText_ne]⟩

/-- **Exclusion**: in any interleaving of `recover` calls, from any store and under any clock, each
    claim on a run has found no lease in its way at the time it read, and that time is no earlier
    than the end of every earlier claim's lease; no two claims build on one version. -/
theorem lease_exclusive [DecidableEq ι] (setups : ι → RecoverySetup)
    (requests : ι → RecoveryRequest) (s₀ : Store)
    {c : Config ι (World ι) Req Req.Ans PyExc (ControlResult RecoveryOutcome)}
    (hc : Steps answers ⟨⟨s₀, []⟩, fun i => recover (setups i).config (requests i)⟩ c) (r : UUID) :
    (∀ x ∈ leaseClaims r c.world.log, leaseFailure x.base x.next.createdAt = none ∧
      ∃ run proposal claimId, x.next.toCheckpointFields =
        claimFields (setups x.who).config run proposal x.base x.next.createdAt claimId) ∧
    (leaseClaims r c.world.log).Pairwise (Spaced fun i => (setups i).leaseSeconds) := by
  have hown : ∀ x ∈ rewrites c.world.log, LeaseWrite setups x.who x.base x.next :=
    rewrites_owned (fun i => recover_rewrites (fun _ _ h => .inl h) (fun _ _ h => .inr h) _) hc
  refine ⟨fun x hx => ?_, ?_⟩
  · obtain ⟨hmem, hclaim⟩ := List.mem_filter.mp hx
    simp only [decide_eq_true_eq] at hclaim
    obtain hwrite | hinterrupt := hown x hmem
    · obtain ⟨hfree, -, -, hfields⟩ := hwrite.spec
      exact ⟨hfree, hfields⟩
    · exact absurd hinterrupt.leaseText hclaim.2
  · have hstart : LeaseInv (fun i => (setups i).leaseSeconds) r (⟨s₀, []⟩ : World ι) :=
      ⟨.nil, fun x hx => by cases hx⟩
    have hend := steps_rewrites (I := LeaseInv (fun i => (setups i).leaseSeconds) r)
      (fun _ _ _ _ _ hw hx hown => hw.step hx hown) hstart hc hown
    exact hend.spaced

end RecoveryCoordinator

end

/-! ## A sample interleaving -/

namespace Sample

attribute [local instance] digest

/-- The sample run while it is verified, with nobody to verify it. -/
def contested : Store where
  runs := (∅ : Table Run.runId).put
    { run with state := .verifying, version := 6, version_pos := sixth_version }
  proposals := (∅ : Table ActionProposal.proposalId).put proposal
  idempotency := (∅ : Table IdempotencyRecord.idempotencyKey).put
    { idempotencyKey := deriveIdempotencyKey proposal
      proposalId := uid 4
      actionFingerprint := ⟨0⟩
      registeredAt := 0
      status_payload := by exact ⟨rfl, rfl⟩ }
  checkpoints := (∅ : Table fun c : Checkpoint => c.runId).put checkpoint

def claimer : RecoverySetup := { recovery with readback := none, reconciler := none }

/-- Two recoveries of the run, the second one thirty seconds later. -/
def leased : Config Bool (World Bool) Req Req.Ans PyExc (ControlResult RecoveryOutcome) :=
  let threads : Bool → Flow (ControlResult RecoveryOutcome) := fun _ =>
    RecoveryCoordinator.recover claimer.config ⟨uid 1, some (uid 4)⟩
  let first := (threads false).run ((environment 100 acknowledges).respond false)
    ⟨⟨contested, []⟩, 0⟩
  let threads := Function.update threads false (ofExcept first.1)
  let second := (threads true).run ((environment 30000200 acknowledges).respond true)
    ⟨first.2.world, 0⟩
  ⟨second.2.world, Function.update threads true (ofExcept second.1)⟩

/-- Both recoveries claim, each on a version of its own. -/
theorem lease_exclusive_sample :
    (leaseClaims (uid 1) leased.world.log).map (fun x => (x.who, x.base.version, x.next.createdAt)) =
      [(false, 1, 106), (true, 2, 30000206)] ∧
    (leaseClaims (uid 1) leased.world.log).Pairwise (Spaced fun _ => 30) := by
  refine ⟨by decide +kernel, ?_⟩
  exact (RecoveryCoordinator.lease_exclusive (fun _ => claimer) (fun _ => ⟨uid 1, some (uid 4)⟩)
    contested (((environment 100 acknowledges).steps_solo false ⟨⟨contested, []⟩, 0⟩ _).trans
      ((environment 30000200 acknowledges).steps_solo true ⟨_, 0⟩ _)) (uid 1)).2

end Sample

end CloudOpsAgent
