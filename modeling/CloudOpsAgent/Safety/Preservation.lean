/-
  What the replacement of a checkpoint leaves as it was.

  Every writer owns some fields of the checkpoint and should leave the others alone.  The local flow
  copies the checkpoint it replaces and updates the copy.  The other writers build the next
  checkpoint anew (`rebuilt`): they pass on the metadata and the tool result hashes, and none of the
  seven records of a local run.

  1. **Fields and steps** — `WriterStep` names the writes of the four modules, and `sets` the fields
     each of them sets.

  2. **One step** — a local step keeps every field it does not set; any other step does exactly
     where the stored checkpoint carries no record of a local run (`Writes.keeps_iff`).

  3. **Every run** — the same for every replacement in any interleaving of the writers
     (`replacement_keeps_iff`), and a recovery that drops the evidence of a run.
-/
import CloudOpsAgent.Safety.Lease
import CloudOpsAgent.Flow.LocalSolo

namespace CloudOpsAgent

open ClientProg ClientProg.Prog Flow

/-! ## Fields and steps -/

/-- The fields of a checkpoint, the resume metadata key by key. -/
inductive CheckpointField where
  | runId
  | lastSafeState
  | metadata (key : String)
  | toolResultHashes
  | resourceEvidence
  | remediationProposal
  | localApprovalRequest
  | localApproval
  | localExecutionIntent
  | localExecutionReceipt
  | localVerification
  | createdAt
  | version
  deriving DecidableEq

/-- The field is the same in both checkpoints. -/
def CheckpointField.Same : CheckpointField → CheckpointFields → CheckpointFields → Prop
  | .runId, c, d => d.runId = c.runId
  | .lastSafeState, c, d => d.lastSafeState = c.lastSafeState
  | .metadata key, c, d => d.resumeMetadata.lookup key = c.resumeMetadata.lookup key
  | .toolResultHashes, c, d => d.toolResultHashes = c.toolResultHashes
  | .resourceEvidence, c, d => d.resourceEvidence = c.resourceEvidence
  | .remediationProposal, c, d => d.remediationProposal = c.remediationProposal
  | .localApprovalRequest, c, d => d.localApprovalRequest = c.localApprovalRequest
  | .localApproval, c, d => d.localApproval = c.localApproval
  | .localExecutionIntent, c, d => d.localExecutionIntent = c.localExecutionIntent
  | .localExecutionReceipt, c, d => d.localExecutionReceipt = c.localExecutionReceipt
  | .localVerification, c, d => d.localVerification = c.localVerification
  | .createdAt, c, d => d.createdAt = c.createdAt
  | .version, c, d => d.version = c.version

/-- The steps of the local flow that write. -/
inductive LocalStep where
  | request | decision | state | intent | receipt | verification | closed

namespace LocalStep

/-- The metadata a step records beside the phase. -/
def key : LocalStep → String
  | request => "local_approval_request_hash"
  | decision => "local_decision_hash"
  | state => "local_decision"
  | intent => "local_execution_intent_hash"
  | receipt => "local_execution_receipt_hash"
  | verification => "local_verification_hash"
  | closed => "local_outcome"

/-- The records a step sets.  A new request starts the approval over. -/
def records : LocalStep → List CheckpointField
  | request => [.localApprovalRequest, .localApproval, .localExecutionIntent,
      .localExecutionReceipt, .localVerification]
  | decision => [.localApproval]
  | state => []
  | intent => [.localExecutionIntent]
  | receipt => [.localExecutionReceipt]
  | verification => [.localVerification]
  | closed => []

end LocalStep

/-- The steps that replace a checkpoint: the lease claim, `request` and `resume` of the approval
    flow, `issue` and `resume` of the challenge service, and those of the local flow. -/
inductive WriterStep where
  | claim
  | interrupt
  | decision
  | challenge
  | consumption
  | hitl (step : LocalStep)

namespace WriterStep

/-- The metadata a step sets. -/
def keys : WriterStep → List String
  | claim => ["recovery_claim_id", "recovery_claim_state", "recovery_lease_expires_at",
      "recovery_proposal_id"]
  | interrupt => ["approval_interrupt_id", "approval_request_hash", "proposal_id"]
  | decision => ["approval_decision"]
  | challenge => ["judge_freshness_digest", "judge_principal_digest", "judge_freshness_expires_at",
      "judge_freshness_consumed"]
  | consumption => ["judge_freshness_consumed"]
  | hitl step => ["phase", step.key]

/-- The other fields a step sets. -/
def fields : WriterStep → List CheckpointField
  | claim | challenge | consumption => [.createdAt, .version]
  | interrupt | decision => [.lastSafeState, .createdAt, .version]
  | hitl step => .lastSafeState :: .createdAt :: .version :: step.records

/-- Every field a step sets. -/
def sets (step : WriterStep) : List CheckpointField := step.keys.map .metadata ++ step.fields

/-- Whether the step starts from a copy of the checkpoint. -/
def copies : WriterStep → Bool
  | hitl _ => true
  | _ => false

variable {step : WriterStep}

/-- Only the local flow sets records. -/
theorem fields_of_not_copies (hcopies : step.copies = false) :
    step.fields ⊆ [.lastSafeState, .createdAt, .version] := by
  cases step with
  | hitl step => cases hcopies
  | _ => simp [fields]

theorem mem_sets_metadata {key : String} :
    CheckpointField.metadata key ∈ step.sets ↔ key ∈ step.keys := by
  have hfields : CheckpointField.metadata key ∉ step.fields := by
    cases step with
    | hitl step => cases step <;> simp [fields, LocalStep.records]
    | _ => simp [fields]
  simp [sets, hfields]

theorem mem_sets {f : CheckpointField} (hf : f ∈ step.fields) : f ∈ step.sets :=
  List.mem_append_right _ hf

theorem createdAt_mem : CheckpointField.createdAt ∈ step.sets := by
  apply mem_sets
  cases step <;> simp [fields]

theorem version_mem : CheckpointField.version ∈ step.sets := by
  apply mem_sets
  cases step <;> simp [fields]

end WriterStep

/-- The checkpoint carries no record of a local run. -/
structure CheckpointFields.Bare (c : CheckpointFields) : Prop where
  resourceEvidence : c.resourceEvidence = none
  remediationProposal : c.remediationProposal = none
  localApprovalRequest : c.localApprovalRequest = none
  localApproval : c.localApproval = none
  localExecutionIntent : c.localExecutionIntent = none
  localExecutionReceipt : c.localExecutionReceipt = none
  localVerification : c.localVerification = none

section

variable [Sha256] {ι : Type}

namespace WriterStep

/-- `next` is what the step writes over `c`. -/
def Writes : WriterStep → Checkpoint → Checkpoint → Prop
  | claim, c, next => ∃ cfg, RecoveryCoordinator.ClaimWrite cfg c next
  | interrupt, c, next => DurableApprovalFlow.InterruptWrite c next
  | decision, c, next => DurableApprovalFlow.DecisionWrite c next
  | challenge, c, next => AuthenticatedApprovalResumeService.ChallengeWrite c next
  | consumption, c, next => AuthenticatedApprovalResumeService.ConsumedWrite c next
  | hitl step, c, next => ∃ createdAt safe metadata update,
      LocalHitlExecutionFlow.CheckpointWrite c safe metadata update ∧
      metadata.map Prod.fst = (hitl step).keys ∧
      next.toCheckpointFields =
        LocalHitlExecutionFlow.nextFields c createdAt safe metadata update

/-- The replacement keeps every field the step does not set. -/
def Keeps (step : WriterStep) (c next : Checkpoint) : Prop :=
  ∀ f ∉ step.sets, f.Same c.toCheckpointFields next.toCheckpointFields

end WriterStep

/-! ## One step -/

omit [Sha256] in
/-- Pairs inserted one by one leave the other keys alone. -/
theorem lookup_foldl_insert {α β : Type} (g : α → β) {key : String} (l : List (String × α))
    (d : Dict String β) (hkey : key ∉ l.map Prod.fst) :
    (l.foldl (fun d kv => d.insert kv.1 (g kv.2)) d).lookup key = d.lookup key := by
  induction l generalizing d with
  | nil => rfl
  | cons kv l ih =>
    rw [List.map_cons, List.mem_cons, not_or] at hkey
    rw [List.foldl_cons, ih _ hkey.2]
    exact Finmap.lookup_insert_of_ne _ hkey.1

/-- A checkpoint built anew over `c`: six fields, and the metadata with some keys set. -/
def rebuilt (c : Checkpoint) (safe : WorkflowState) (metadata : List (String × Json))
    (createdAt : Time) : CheckpointFields where
  runId := c.runId
  lastSafeState := safe
  resumeMetadata := metadata.foldl (fun d kv => d.insert kv.1 kv.2) c.resumeMetadata
  toolResultHashes := c.toolResultHashes
  createdAt := createdAt
  version := c.version + 1

namespace WriterStep

variable {step : WriterStep} {c next : Checkpoint}

/-- A checkpoint that is not a copy is built anew, and sets what its step sets. -/
theorem Writes.rebuilt (h : step.Writes c next) (hcopies : step.copies = false) :
    ∃ safe metadata createdAt, metadata.map Prod.fst = step.keys ∧
      (CheckpointField.lastSafeState ∉ step.fields → safe = c.lastSafeState) ∧
      next.toCheckpointFields = rebuilt c safe metadata createdAt := by
  cases step with
  | claim =>
    obtain ⟨cfg, run, proposal, now, claimId, -, -, h⟩ := h
    exact ⟨_, [("recovery_claim_id", _), ("recovery_claim_state", _),
      ("recovery_lease_expires_at", _), ("recovery_proposal_id", _)], _, rfl, fun _ => rfl, h⟩
  | interrupt =>
    obtain ⟨interruptId, requestHash, proposalId, createdAt, h⟩ := h
    exact ⟨_, [("approval_interrupt_id", _), ("approval_request_hash", _), ("proposal_id", _)], _,
      rfl, fun hsafe => absurd (List.mem_cons_self ..) hsafe, h⟩
  | decision =>
    obtain ⟨decision, createdAt, h⟩ := h
    exact ⟨_, [("approval_decision", _)], _, rfl,
      fun hsafe => absurd (List.mem_cons_self ..) hsafe, h⟩
  | challenge =>
    obtain ⟨principal, value, now, expiresAt, h⟩ := h
    exact ⟨_, [("judge_freshness_digest", _), ("judge_principal_digest", _),
      ("judge_freshness_expires_at", _), ("judge_freshness_consumed", _)], _, rfl, fun _ => rfl, h⟩
  | consumption =>
    obtain ⟨consumedAt, h⟩ := h
    exact ⟨_, [("judge_freshness_consumed", _)], _, rfl, fun _ => rfl, h⟩
  | hitl step => cases hcopies

/-- **A step that builds anew** keeps what it does not set exactly where there is no record to
    drop. -/
theorem Writes.keeps_iff_bare (h : step.Writes c next) (hcopies : step.copies = false) :
    step.Keeps c next ↔ c.Bare := by
  obtain ⟨safe, metadata, createdAt, hkeys, hsafe, hnext⟩ := h.rebuilt hcopies
  have record {f : CheckpointField} (hmeta : ∀ key, f ≠ .metadata key)
      (hf : f ∉ [.lastSafeState, .createdAt, .version]) : f ∉ step.sets := by
    intro hmem
    obtain hmem | hmem := List.mem_append.mp hmem
    · obtain ⟨key, -, rfl⟩ := List.mem_map.mp hmem
      exact hmeta key rfl
    · exact hf (fields_of_not_copies hcopies hmem)
  constructor
  · intro hkeeps
    have gone (f : CheckpointField) (hmeta : ∀ key, f ≠ .metadata key)
        (hf : f ∉ [.lastSafeState, .createdAt, .version]) :
        f.Same c.toCheckpointFields (CloudOpsAgent.rebuilt c safe metadata createdAt) :=
      hnext ▸ hkeeps f (record hmeta hf)
    exact ⟨(gone .resourceEvidence nofun (by decide)).symm,
      (gone .remediationProposal nofun (by decide)).symm,
      (gone .localApprovalRequest nofun (by decide)).symm,
      (gone .localApproval nofun (by decide)).symm,
      (gone .localExecutionIntent nofun (by decide)).symm,
      (gone .localExecutionReceipt nofun (by decide)).symm,
      (gone .localVerification nofun (by decide)).symm⟩
  · intro hbare f hf
    rw [hnext]
    cases f with
    | runId | toolResultHashes => rfl
    | lastSafeState => exact hsafe fun hmem => hf (mem_sets hmem)
    | metadata key =>
      exact lookup_foldl_insert id metadata c.resumeMetadata (by rwa [hkeys, ← mem_sets_metadata])
    | resourceEvidence => exact hbare.resourceEvidence.symm
    | remediationProposal => exact hbare.remediationProposal.symm
    | localApprovalRequest => exact hbare.localApprovalRequest.symm
    | localApproval => exact hbare.localApproval.symm
    | localExecutionIntent => exact hbare.localExecutionIntent.symm
    | localExecutionReceipt => exact hbare.localExecutionReceipt.symm
    | localVerification => exact hbare.localVerification.symm
    | createdAt => exact absurd createdAt_mem hf
    | version => exact absurd version_mem hf

/-- What a local step changes, besides the stamps and the metadata, is a record it sets. -/
theorem same_of_checkpointWrite {step : LocalStep} {safe : WorkflowState}
    {metadata : List (String × String)} {update : CheckpointFields → CheckpointFields}
    (hwrite : LocalHitlExecutionFlow.CheckpointWrite c safe metadata update)
    (hkeys : metadata.map Prod.fst = (hitl step).keys) {f : CheckpointField}
    (hf : f ∉ step.records) : f.Same c.toCheckpointFields (update c.toCheckpointFields) := by
  -- the key a step records tells which step it is
  cases hwrite with
  | state | closed => cases f <;> rfl
  | request =>
    obtain rfl : step = .request := by cases step <;> simp [keys, LocalStep.key] at hkeys ⊢
    cases f <;> first | rfl | simp [LocalStep.records] at hf
  | decision =>
    obtain rfl : step = .decision := by cases step <;> simp [keys, LocalStep.key] at hkeys ⊢
    cases f <;> first | rfl | simp [LocalStep.records] at hf
  | intent =>
    obtain rfl : step = .intent := by cases step <;> simp [keys, LocalStep.key] at hkeys ⊢
    cases f <;> first | rfl | simp [LocalStep.records] at hf
  | receipt =>
    obtain rfl : step = .receipt := by cases step <;> simp [keys, LocalStep.key] at hkeys ⊢
    cases f <;> first | rfl | simp [LocalStep.records] at hf
  | verification =>
    obtain rfl : step = .verification := by cases step <;> simp [keys, LocalStep.key] at hkeys ⊢
    cases f <;> first | rfl | simp [LocalStep.records] at hf

/-- **A step of the local flow** keeps what it does not set. -/
theorem Writes.keeps {step : LocalStep} (h : (hitl step).Writes c next) :
    (hitl step).Keeps c next := by
  obtain ⟨createdAt, safe, metadata, update, hwrite, hkeys, hnext⟩ := h
  intro f hf
  have hsame : f.Same c.toCheckpointFields (update c.toCheckpointFields) := by
    refine same_of_checkpointWrite hwrite hkeys fun hmem => hf (mem_sets ?_)
    simp [fields, hmem]
  rw [hnext]
  cases f with
  | metadata key =>
    exact lookup_foldl_insert Json.str metadata c.resumeMetadata (by rwa [hkeys, ← mem_sets_metadata])
  | lastSafeState => exact absurd (mem_sets (List.mem_cons_self ..)) hf
  | createdAt => exact absurd createdAt_mem hf
  | version => exact absurd version_mem hf
  | _ => exact hsame

theorem Writes.keeps_iff (h : step.Writes c next) :
    step.Keeps c next ↔ step.copies = true ∨ c.Bare := by
  cases hcopies : step.copies with
  | false => simpa using h.keeps_iff_bare hcopies
  | true =>
    cases step with
    | hitl step => exact ⟨fun _ => .inl rfl, fun _ => h.keeps⟩
    | _ => cases hcopies

end WriterStep

/-- Every write of the local flow is one of its steps. -/
theorem LocalHitlExecutionFlow.Succeeds.writes {c next : Checkpoint} (h : Succeeds c next) :
    ∃ step, (WriterStep.hitl step).Writes c next := by
  obtain ⟨createdAt, safe, metadata, update, hwrite, hnext⟩ := h
  have named (step : LocalStep) (hkeys : metadata.map Prod.fst = (WriterStep.hitl step).keys) :
      ∃ step, (WriterStep.hitl step).Writes c next :=
    ⟨step, createdAt, safe, metadata, update, hwrite, hkeys, hnext⟩
  cases hwrite with
  | request => exact named .request rfl
  | decision => exact named .decision rfl
  | state => exact named .state rfl
  | intent => exact named .intent rfl
  | receipt => exact named .receipt rfl
  | verification => exact named .verification rfl
  | closed => exact named .closed rfl

/-! ## Every run -/

/-- A request that replaces no checkpoint. -/
def Req.replacesNothing (r : Req) : Prop :=
  ∀ c version, r ≠ .store (.saveCheckpoint c (some version))

/-- Who takes part: the entry points that write over checkpoints, and anybody who does not. -/
inductive Writer where
  | recover (setup : RecoverySetup) (request : RecoveryRequest)
  | requestApproval (runtime : PrimaryAgentRuntime) (proposalId : UUID)
  | resumeApproval (runtime : PrimaryAgentRuntime) (response : ApprovalResumeRequest)
  | issueChallenge (cfg : ResumeServiceConfig) (interrupt : ApprovalInterrupt)
      (principal : AuthenticatedJudgePrincipal)
  | resumeChallenge (runtime : PrimaryAgentRuntime) (interrupt : ApprovalInterrupt)
      (decision : ApprovalDecision) (principal : AuthenticatedJudgePrincipal) (challenge : String)
  | requestLocal (cfg : LocalHitlConfig) (runId : UUID) (principal : LocalOperatorPrincipal)
  | decideLocal (cfg : LocalHitlConfig) (d : LocalDecisionRequest)
      (principal : LocalOperatorPrincipal)
  | resumeLocal (cfg : LocalHitlConfig) (runId : UUID) (principal : LocalOperatorPrincipal)
  | other (program : Flow Unit) (h : program.Issues Req.replacesNothing)

namespace Writer

def flow : Writer → Flow Unit
  | .recover setup request => do let _ ← RecoveryCoordinator.recover setup.config request
  | .requestApproval runtime proposalId => do
    let _ ← DurableApprovalFlow.request runtime proposalId
  | .resumeApproval runtime response => do let _ ← DurableApprovalFlow.resume runtime response
  | .issueChallenge cfg interrupt principal => do
    let _ ← AuthenticatedApprovalResumeService.issue cfg interrupt principal
  | .resumeChallenge runtime interrupt decision principal challenge => do
    let _ ← AuthenticatedApprovalResumeService.resume runtime interrupt decision principal challenge
  | .requestLocal cfg runId principal => do
    let _ ← LocalHitlExecutionFlow.requestApproval cfg runId principal
  | .decideLocal cfg d principal => do let _ ← LocalHitlExecutionFlow.decide cfg d principal
  | .resumeLocal cfg runId principal => do
    let _ ← LocalHitlExecutionFlow.resume cfg runId principal
  | .other program _ => program

/-- The steps an entry point takes.  `recover` asks for an approval through its reconstructor. -/
def Takes : Writer → WriterStep → Prop
  | .recover .., step => step = .claim ∨ step = .interrupt
  | .requestApproval .., step => step = .interrupt
  | .resumeApproval .., step => step = .decision
  | .issueChallenge .., step => step = .challenge
  | .resumeChallenge .., step => step = .consumption ∨ step = .decision
  | .requestLocal .., step | .decideLocal .., step | .resumeLocal .., step =>
    ∃ s, step = .hitl s
  | .other .., _ => False

/-- `next` is what the entry point writes over `c` in one of its steps. -/
def Replaces (x : Writer) (c next : Checkpoint) : Prop := ∃ step, x.Takes step ∧ step.Writes c next

/-- **Every entry point** replaces checkpoints in its own steps only. -/
theorem flow_safe (x : Writer) {own : ι → Checkpoint → Checkpoint → Prop} {i : ι}
    (hown : ∀ c next, x.Replaces c next → own i c next) (w : World ι) :
    Safe (rewriteDiscipline own) i x.flow (fun _ _ => True) w := by
  have takes (step : WriterStep) (hstep : x.Takes step) (c next : Checkpoint)
      (h : step.Writes c next) : own i c next := hown c next ⟨step, hstep, h⟩
  have taken (hx : ∀ step, x.Takes (.hitl step)) (c next : Checkpoint)
      (h : LocalHitlExecutionFlow.Succeeds c next) : own i c next := by
    obtain ⟨step, hstep⟩ := h.writes
    exact takes (.hitl step) (hx step) c next hstep
  have discarded {α : Type} {p : Flow α}
      (h : Safe (rewriteDiscipline own) i p (fun _ _ => True) w) :
      Safe (rewriteDiscipline own) i (p >>= fun _ => .ret ()) (fun _ _ => True) w :=
    h.bind (fun _ _ _ _ _ => safe_ret fun _ _ _ => trivial) fun _ _ _ _ _ => trivial
  cases x with
  | recover setup request =>
    refine discarded (RecoveryCoordinator.recover_rewrites ?_ ?_ request)
    · exact fun c next h => takes .claim (.inl rfl) c next ⟨setup.config, h⟩
    · exact takes .interrupt (.inr rfl)
  | requestApproval runtime proposalId =>
    refine discarded (DurableApprovalFlow.request_rewrites ?_ runtime proposalId)
    exact takes .interrupt rfl
  | resumeApproval runtime response =>
    refine discarded (DurableApprovalFlow.resume_rewrites ?_ runtime response)
    exact takes .decision rfl
  | issueChallenge cfg interrupt principal =>
    refine discarded (AuthenticatedApprovalResumeService.issue_rewrites ?_ interrupt)
    exact fun c next h => takes .challenge rfl c next h.challengeWrite
  | resumeChallenge runtime interrupt decision principal challenge =>
    refine discarded (AuthenticatedApprovalResumeService.resume_rewrites ?_ ?_ runtime interrupt
      decision principal challenge)
    · exact takes .decision (.inr rfl)
    · exact takes .consumption (.inl rfl)
  | requestLocal cfg runId principal =>
    refine discarded ((LocalHitlExecutionFlow.rewriteTracking ?_).requestApproval_safe cfg runId
      principal w)
    exact taken fun step => ⟨step, rfl⟩
  | decideLocal cfg d principal =>
    refine discarded ((LocalHitlExecutionFlow.rewriteTracking ?_).decide_safe cfg d principal w)
    exact taken fun step => ⟨step, rfl⟩
  | resumeLocal cfg runId principal =>
    refine discarded (((LocalHitlExecutionFlow.rewriteTracking ?_).resume_safe cfg runId
      principal w).mono fun _ _ _ _ => trivial)
    exact taken fun step => ⟨step, rfl⟩
  | other program h =>
    refine .of_issues (fun _ r hr base next heq _ => ?_) h w
    exact absurd heq (hr next base.version)

end Writer

/-- **Preservation**: in any interleaving of the writers, from any store, every replacement is one
    step of its writer, and it keeps every field the step does not set exactly where the step
    copies the checkpoint or the checkpoint carries no record of a local run. -/
theorem replacement_keeps_iff [DecidableEq ι] (writers : ι → Writer) (s₀ : Store)
    {c : Config ι (World ι) Req Req.Ans PyExc Unit}
    (hc : Steps answers ⟨⟨s₀, []⟩, fun i => (writers i).flow⟩ c) :
    ∀ x ∈ rewrites c.world.log, ∃ step, (writers x.who).Takes step ∧ step.Writes x.base x.next ∧
      (step.Keeps x.base x.next ↔ step.copies = true ∨ x.base.Bare) := by
  have hsafe (i : ι) : Safe (rewriteDiscipline fun i => (writers i).Replaces) i (writers i).flow
      (fun _ _ => True) ⟨s₀, []⟩ := by
    refine (writers i).flow_safe ?_ _
    exact fun _ _ h => h
  have hown := rewrites_owned hsafe hc
  intro x hx
  obtain ⟨step, htakes, hwrites⟩ := hown x hx
  exact ⟨step, htakes, hwrites, hwrites.keeps_iff⟩

end

/-! ## A sample recovery -/

namespace Sample

attribute [local instance] digest

/-- The contested run, with the evidence and the proposal of its local run in the checkpoint. -/
def evidencedStore : Store :=
  { contested with checkpoints := (∅ : Table _).put proposedCheckpoint }

def recovering : Unit → Writer := fun _ => .recover claimer ⟨uid 1, some (uid 4)⟩

def recovered : Config Unit (World Unit) Req Req.Ans PyExc Unit :=
  let x := (recovering ()).flow.run ((environment 100 acknowledges).respond ()) ⟨⟨evidencedStore, []⟩, 0⟩
  ⟨x.2.world, Function.update (fun i => (recovering i).flow) () (ofExcept x.1)⟩

theorem steps_recovered :
    Steps answers ⟨⟨evidencedStore, []⟩, fun i => (recovering i).flow⟩ recovered :=
  (environment 100 acknowledges).steps_solo () ⟨⟨evidencedStore, []⟩, 0⟩ _

/-- The recovery replaces the checkpoint once, by one without the evidence. -/
theorem recovered_rewrites :
    (rewrites recovered.world.log).map (fun x => (x.base.resourceEvidence.isSome,
      x.next.resourceEvidence.isSome)) = [(true, false)] := by
  decide +kernel

/-- The claim drops the evidence, which no step of `recover` sets. -/
theorem claim_drops_evidence :
    Steps answers ⟨⟨evidencedStore, []⟩, fun i => (recovering i).flow⟩ recovered ∧
      ∃ x ∈ rewrites recovered.world.log,
        ¬∃ step, (recovering x.who).Takes step ∧ step.Keeps x.base x.next := by
  refine ⟨steps_recovered, ?_⟩
  have hone := recovered_rewrites
  rcases hlog : rewrites recovered.world.log with _ | ⟨x, rest⟩
  · rw [hlog] at hone
    cases hone
  rw [hlog] at hone
  simp only [List.map_cons, List.cons.injEq, Prod.mk.injEq] at hone
  obtain ⟨⟨hbase, hnext⟩, -⟩ := hone
  refine ⟨x, List.mem_cons_self .., ?_⟩
  rintro ⟨step, htakes, hkeeps⟩
  have hsame : CheckpointField.resourceEvidence.Same x.base.toCheckpointFields
      x.next.toCheckpointFields := by
    obtain rfl | rfl := htakes
    · exact hkeeps _ (by decide)
    · exact hkeeps _ (by decide)
  simp only [CheckpointField.Same] at hsame
  rw [hsame, hbase] at hnext
  cases hnext

theorem replacement_keeps_iff_sample :
    (rewrites recovered.world.log).length = 1 ∧
      ∀ x ∈ rewrites recovered.world.log, ∃ step, (recovering x.who).Takes step ∧
        step.Writes x.base x.next ∧
          (step.Keeps x.base x.next ↔ step.copies = true ∨ x.base.Bare) := by
  refine ⟨by decide +kernel, replacement_keeps_iff recovering evidencedStore steps_recovered⟩

end Sample

end CloudOpsAgent
