/-
  What each control flow can request.

  Every flow except `execute` stays inside `Req.nonStop`.  The audits, failure paths and lookups that
  the flows share stay inside `Req.plain`, so that a proof about a flow only has to look at the
  requests its argument is about.
-/
import CloudOpsAgent.Flow.System

namespace CloudOpsAgent

open ClientProg ClientProg.Prog Flow

variable [Sha256]

omit [Sha256] in
theorem workflowState_ne_verifying (k : FailureKind) : k.workflowState ≠ .verifying :=
  k.workflowState_not_active.2.1

namespace StopSandboxInstanceCoordinator

theorem appendEvent_plain (run : Run) (type : AuditEventType) (h : Sha256Digest)
    (m : Dict String String) : (appendEvent run type h m).Issues Req.plain := by
  simp [appendEvent, Req.plain, Op.guarded]

theorem markRecoveryRequired_plain (runId : UUID) (code message : String) :
    (markRecoveryRequired runId code message).Issues Req.plain := by
  refine issues_catching ?_ trivial fun _ => trivial
  simp only [issues_op_bind]
  refine ⟨rfl, fun run => ?_⟩
  cases run with
  | none => trivial
  | some run =>
    dsimp only
    split <;> simp [Req.plain, Op.guarded]

theorem persistExecutionFailure_plain (run : Run) (key : String) (failure : FailureDetail)
    (result : ActionResult) : (persistExecutionFailure run key failure result).Issues Req.plain := by
  refine issues_catching ?_ trivial fun _ => trivial
  dsimp only
  split
  · exact (appendEvent_plain ..).bind fun _ => by simp [Req.plain, Op.guarded]
  · simp [Req.plain, Op.guarded]

theorem recordAcknowledgement_plain (run : Run) (proposalId : UUID) (key : String)
    (ack : ExecutionAcknowledgement) :
    (recordAcknowledgement run proposalId key ack).Issues Req.plain := by
  refine issues_catching ?_ (markRecoveryRequired_plain ..) fun _ => trivial
  simp [appendEvent, Req.plain, Op.guarded]

theorem requireApprovedRecords_plain (proposalId : UUID) :
    (requireApprovedRecords proposalId).Issues Req.plain := by
  simp only [requireApprovedRecords, issues_op_bind]
  refine ⟨rfl, fun proposal => ?_⟩
  rcases proposal with _ | proposal
  · trivial
  dsimp only
  split
  · trivial
  simp only [issues_op_bind]
  refine ⟨rfl, fun approval => ?_⟩
  rcases approval with _ | approval
  · trivial
  dsimp only
  split
  · trivial
  simp only [issues_op_bind]
  refine ⟨rfl, fun run => ?_⟩
  rcases run with _ | run
  · trivial
  dsimp only
  split <;> trivial

theorem loadExecutionPrerequisites_plain (proposalId : UUID) :
    (loadExecutionPrerequisites proposalId).Issues Req.plain := by
  refine (requireApprovedRecords_plain proposalId).bind fun ⟨run, proposal, approval⟩ => ?_
  simp only [issues_op_bind]
  refine ⟨rfl, fun record => ?_⟩
  rcases record with _ | record
  · trivial
  dsimp only
  split
  · trivial
  simp only [issues_op_bind]
  refine ⟨rfl, fun checkpoint => ?_⟩
  rcases checkpoint with _ | checkpoint
  · trivial
  dsimp only
  split
  · trivial
  split <;> trivial

theorem registerApprovedAction_plain (proposalId : UUID) (registeredAt : Time) :
    (registerApprovedAction proposalId registeredAt).Issues Req.plain := by
  refine (requireApprovedRecords_plain proposalId).bind fun ⟨run, proposal, approval⟩ => ?_
  exact issues_ofExcept_bind fun record => issues_op.mpr rfl

theorem claim_plain (proposal : ActionProposal) (proposalId : UUID) :
    (claim proposal proposalId).Issues Req.plain := by
  simp only [claim, issues_clock_bind]
  refine ⟨trivial, fun registeredAt => (registerApprovedAction_plain ..).bind fun record => ?_⟩
  refine (loadExecutionPrerequisites_plain proposalId).bind fun prerequisites => ?_
  simp only [issues_op_bind, issues_clock_bind]
  refine ⟨trivial, fun t => ⟨rfl, fun run => ⟨trivial, fun t' => ?_⟩⟩⟩
  exact (appendEvent_plain ..).bind fun _ => trivial

theorem claimHandler_plain {runId : UUID} {e : PyExc}
    {h : Flow (ControlResult ExecutionAcknowledgement)} (he : claimHandler runId e = some h) :
    h.Issues Req.plain := by
  unfold claimHandler at he
  split at he <;> cases he
  · trivial
  · exact markRecoveryRequired_plain ..
  · trivial

theorem reconcileExisting_plain (proposal : ActionProposal) (key : String)
    (existing : IdempotencyRecord) : (reconcileExisting proposal key existing).Issues Req.plain := by
  unfold reconcileExisting
  split
  · trivial
  split
  · refine issues_catching (by simp [Req.plain, Op.guarded]) trivial fun run => ?_
    split
    · trivial
    · exact markRecoveryRequired_plain ..
  · split
    · exact markRecoveryRequired_plain ..
    · split <;> trivial

end StopSandboxInstanceCoordinator

namespace BoundedVerificationCoordinator

/-- A control result that is a failure. -/
def Failed {α : Type} (r : ControlResult α) : Prop := ∃ f, r = .failed f

theorem appendEvent_plain (run : Run) (type : AuditEventType) (h : Sha256Digest)
    (m : Dict String String) : (appendEvent run type h m).Issues Req.plain := by
  simp [appendEvent, Req.plain, Op.guarded]

theorem markRecoveryRequired_plain (run : Run) : (markRecoveryRequired run).Issues Req.plain := by
  refine issues_catching ?_ trivial fun _ => trivial
  simp only [issues_op_bind]
  refine ⟨rfl, fun current => ?_⟩
  rcases current with _ | current
  · trivial
  dsimp only
  split <;> simp [Req.plain, Op.guarded]

theorem failVerification_plain (run : Run) (key : String) (failure : FailureDetail) :
    (failVerification run key failure).Issues Req.plain := by
  refine issues_catching ?_ ((markRecoveryRequired_plain run).bind fun _ => trivial) fun _ => trivial
  simp [Req.plain, Op.guarded]

theorem finalizeExistingEvidence_plain (run : Run) (proposalId : UUID) :
    (finalizeExistingEvidence run proposalId).Issues Req.plain := by
  refine issues_catching ?_ ((markRecoveryRequired_plain run).bind fun _ => trivial) fun found => ?_
  · simp only [issues_op_bind]
    refine ⟨rfl, fun evidence => ?_⟩
    rcases evidence with _ | evidence
    · trivial
    exact (appendEvent_plain ..).bind fun _ => by simp [Req.plain, Op.guarded]
  · rcases found with _ | evidence <;> trivial

theorem reconcileSuccess_plain (run : Run) (proposalId : UUID) :
    (reconcileSuccess run proposalId).Issues Req.plain := by
  refine issues_catching (issues_op.mpr rfl) trivial fun evidence => ?_
  rcases evidence with _ | evidence <;> trivial

theorem lookup_plain (proposalId : UUID) : (lookup proposalId).Issues Req.plain := by
  simp only [lookup, issues_op_bind]
  refine ⟨rfl, fun proposal => ?_⟩
  rcases proposal with _ | proposal
  · trivial
  simp only [issues_op_bind]
  refine ⟨rfl, fun run => ?_⟩
  rcases run with _ | run
  · trivial
  simp [Req.plain, Op.guarded]

theorem observe_plain (target : SandboxTarget) (proposal : ActionProposal)
    (identity : InvestigationIdentity) (t : Time) (attempt : Nat) :
    (VerifyInstanceStateService.observe target proposal identity t attempt).Issues Req.plain := by
  unfold VerifyInstanceStateService.observe
  split
  · rw [issues_inspect_bind]
    refine ⟨trivial, fun answer => ?_⟩
    cases answer <;> trivial
  · trivial

theorem persistSuccess_quiet (run : Run) (proposal : ActionProposal)
    (ack : ExecutionAcknowledgement) (o : VerificationObservation) :
    (persistSuccess run proposal ack o).Issues Req.quiet := by
  simp only [persistSuccess, issues_clock_bind, issues_freshId_bind]
  refine ⟨trivial, fun verifiedAt => ⟨trivial, fun id => issues_ofExcept_bind fun evidence => ?_⟩⟩
  refine issues_catching ?_ ?_ fun _ => trivial
  · refine issues_op_bind.mpr ⟨trivial, fun e => issues_clock_bind.mpr ⟨trivial, fun t => ?_⟩⟩
    refine issues_op_bind.mpr ⟨trivial, fun record => ?_⟩
    refine ((appendEvent_plain ..).mono Req.quiet_of_plain).bind fun _ => ?_
    exact issues_clock_bind.mpr ⟨trivial, fun _ => issues_op_bind.mpr ⟨trivial, fun _ => trivial⟩⟩
  · exact ((markRecoveryRequired_plain run).mono Req.quiet_of_plain).bind fun _ => trivial

theorem poll_quiet (settings : VerificationSettings) (target : SandboxTarget)
    (proposal : ActionProposal) (proposalId : UUID) (run : Run) (record : IdempotencyRecord)
    (ack : ExecutionAcknowledgement) (left : Nat) : ∀ attempt : Nat,
      (poll settings target proposal proposalId run record ack left attempt).Issues Req.quiet := by
  have failed (failure : FailureDetail) :
      (failVerification run record.idempotencyKey failure).Issues Req.quiet :=
    (failVerification_plain ..).mono Req.quiet_of_plain
  induction left with
  | zero => exact fun _ => failed _
  | succ left ih =>
    intro attempt
    simp only [poll, issues_clock_bind]
    refine ⟨trivial, fun t => ((observe_plain ..).mono Req.quiet_of_plain).bind fun answer => ?_⟩
    cases answer with
    | failed failure => exact failed _
    | succeeded o =>
      refine issues_catching ((appendEvent_plain ..).mono Req.quiet_of_plain)
        (((markRecoveryRequired_plain run).mono Req.quiet_of_plain).bind fun _ => trivial)
        fun _ => ?_
      cases hd : o.disposition with
      | verified => exact persistSuccess_quiet ..
      | mismatch => exact failed _
      | stillTransitioning =>
        dsimp only
        split
        · exact (issues_sleep.mpr trivial).bind fun _ => ih _
        · exact ih _

theorem verify_quiet (settings : VerificationSettings) (target : SandboxTarget)
    (proposalId : UUID) : (verify settings target proposalId).Issues Req.quiet := by
  refine issues_catching ((lookup_plain proposalId).mono Req.quiet_of_plain) trivial
    fun found => ?_
  rcases found with ⟨proposal, run, record⟩ | failure
  · dsimp only [verifyLoaded]
    split
    · exact (reconcileSuccess_plain ..).mono Req.quiet_of_plain
    rcases record with _ | record
    · trivial
    dsimp only
    split
    · trivial
    split
    · trivial
    split
    · exact (finalizeExistingEvidence_plain ..).mono Req.quiet_of_plain
    split
    · trivial
    exact issues_catching ((appendEvent_plain ..).mono Req.quiet_of_plain) trivial
      fun _ => poll_quiet ..
  · trivial

end BoundedVerificationCoordinator

namespace DurableApprovalFlow

theorem appendEvent_plain (run : Run) (type : AuditEventType) (h : Sha256Digest)
    (m : Dict String String) : (appendEvent run type h m).Issues Req.plain := by
  simp [appendEvent, Req.plain, Op.guarded]

theorem persistRequestFailure_plain (run : Run) (failure : FailureDetail) :
    (persistRequestFailure run failure).Issues Req.plain := by
  refine issues_catching ?_ trivial fun _ => trivial
  simp [Req.plain, Op.guarded, workflowState_ne_verifying]

theorem auditedRequestFailure_plain (run : Run) (proposal : ActionProposal) (type : AuditEventType)
    (failure : FailureDetail) (unavailable : String) :
    (auditedRequestFailure run proposal type failure unavailable).Issues Req.plain :=
  issues_catching (appendEvent_plain ..) trivial fun _ => persistRequestFailure_plain ..

theorem lookup_plain (proposalId : UUID) : (lookup proposalId).Issues Req.plain := by
  simp only [lookup, issues_op_bind]
  refine ⟨rfl, fun proposal => ?_⟩
  rcases proposal with _ | proposal
  · trivial
  simp [Req.plain, Op.guarded]

theorem startAwaiting_plain (run : Run) (proposal : ActionProposal) :
    (startAwaiting run proposal).Issues Req.plain :=
  issues_op_bind.mpr ⟨rfl, fun _ => issues_clock_bind.mpr ⟨trivial, fun _ =>
    issues_op_bind.mpr ⟨rfl, fun _ => trivial⟩⟩⟩

theorem checkpointInterrupt_nonStop (run : Run) (proposal : ActionProposal)
    (checkpoint : Checkpoint) (interruptId : String) :
    (checkpointInterrupt run proposal checkpoint interruptId).Issues Req.nonStop := by
  refine issues_catching ?_ trivial fun _ => trivial
  refine issues_clock_bind.mpr ⟨trivial, fun t => issues_ofExcept_bind fun next => ?_⟩
  exact issues_op_bind.mpr ⟨trivial, fun _ => (appendEvent_plain ..).mono Req.nonStop_of_plain⟩

theorem handleReply_nonStop (run : Run) (proposal : ActionProposal) (checkpoint : Checkpoint)
    (reply : AgentReply) : (handleReply run proposal checkpoint reply).Issues Req.nonStop := by
  have audited (type : AuditEventType) (failure : FailureDetail) (unavailable : String) :
      (auditedRequestFailure run proposal type failure unavailable).Issues Req.nonStop :=
    (auditedRequestFailure_plain ..).mono Req.nonStop_of_plain
  unfold handleReply
  split
  · exact (persistRequestFailure_plain ..).mono Req.nonStop_of_plain
  split
  · exact audited ..
  split
  · split
    · exact checkpointInterrupt_nonStop ..
    · exact audited ..
  · exact audited ..

theorem requestInterrupt_nonStop (runtime : PrimaryAgentRuntime) (run : Run)
    (proposal : ActionProposal) (checkpoint : Checkpoint) :
    (requestInterrupt runtime run proposal checkpoint).Issues Req.nonStop := by
  dsimp only [requestInterrupt]
  split
  · exact (auditedRequestFailure_plain ..).mono Req.nonStop_of_plain
  · refine issues_tryExcept (issues_agent.mpr trivial) (fun e h he => ?_)
      fun reply => handleReply_nonStop ..
    cases he
    trivial

theorem startAwaitingHandler_plain {e : PyExc} {h : Flow (ControlResult ApprovalInterrupt)}
    (he : startAwaitingHandler e = some h) : h.Issues Req.plain := by
  unfold startAwaitingHandler at he
  split at he <;> cases he <;> trivial

theorem request_nonStop (runtime : PrimaryAgentRuntime) (proposalId : UUID) :
    (request runtime proposalId).Issues Req.nonStop := by
  refine issues_catching ((lookup_plain proposalId).mono Req.nonStop_of_plain) trivial
    fun found => ?_
  rcases found with ⟨proposal, _ | run, checkpoint⟩ | failure
  · trivial
  · rcases checkpoint with _ | checkpoint
    · trivial
    dsimp only
    split
    · trivial
    split
    · trivial
    · exact issues_tryExcept ((startAwaiting_plain ..).mono Req.nonStop_of_plain)
        (fun e h he => (startAwaitingHandler_plain he).mono Req.nonStop_of_plain)
        fun started => requestInterrupt_nonStop ..
  · trivial

theorem recordDecision_plain (proposal : ActionProposal) (approval : Approval) :
    (recordDecision proposal approval).Issues Req.plain := by
  refine issues_op_bind.mpr ⟨rfl, fun existing => ?_⟩
  rcases existing with _ | existing
  · exact issues_op_bind.mpr ⟨rfl, fun _ => trivial⟩
  · dsimp only
    split <;> trivial

theorem moveRun_nonStop (response : ApprovalResumeRequest) (proposal : ActionProposal) (run : Run)
    (checkpoint : Checkpoint) :
    (moveRun response proposal run checkpoint).Issues Req.nonStop := by
  dsimp only [moveRun]
  split
  · trivial
  split
  · trivial
  refine issues_clock_bind.mpr ⟨trivial, fun _ => issues_op_bind.mpr ⟨trivial, fun run => ?_⟩⟩
  refine issues_clock_bind.mpr ⟨trivial, fun _ => issues_ofExcept_bind fun next => ?_⟩
  refine issues_op_bind.mpr ⟨trivial, fun _ => ?_⟩
  exact ((appendEvent_plain ..).mono Req.nonStop_of_plain).bind fun _ => trivial

theorem applyDecisionHandler_plain {e : PyExc} {h : Flow (ControlResult ApprovalResolution)}
    (he : applyDecisionHandler e = some h) : h.Issues Req.plain := by
  unfold applyDecisionHandler at he
  split at he <;> cases he <;> trivial

theorem resumeAgent_plain (runtime : PrimaryAgentRuntime) (response : ApprovalResumeRequest)
    (run : Run) (requestHash : Sha256Digest) :
    (resumeAgent runtime response run requestHash).Issues Req.plain := by
  refine issues_tryExcept (issues_agent.mpr trivial) (fun e h he => ?_) fun reply => ?_
  · cases he
    trivial
  · split
    · trivial
    · exact issues_ofExcept_bind fun _ => trivial

theorem resumeLoaded_nonStop (runtime : PrimaryAgentRuntime) (response : ApprovalResumeRequest)
    (proposal : ActionProposal) (run : Run) (checkpoint : Checkpoint) :
    (resumeLoaded runtime response proposal run checkpoint).Issues Req.nonStop := by
  dsimp only [resumeLoaded]
  split
  · refine issues_clock_bind.mpr ⟨trivial, fun t => issues_tryExcept ?_
      (fun e h he => (applyDecisionHandler_plain he).mono Req.nonStop_of_plain) fun applied => ?_⟩
    · exact ((recordDecision_plain ..).mono Req.nonStop_of_plain).bind fun _ => moveRun_nonStop ..
    · rcases applied with run | run
      · exact issues_ofExcept_bind fun _ => trivial
      · exact (resumeAgent_plain ..).mono Req.nonStop_of_plain
  · exact issues_catching ((appendEvent_plain ..).mono Req.nonStop_of_plain) trivial fun _ => trivial

theorem resume_nonStop (runtime : PrimaryAgentRuntime) (response : ApprovalResumeRequest) :
    (resume runtime response).Issues Req.nonStop := by
  refine issues_catching (by simp [Req.nonStop]) trivial fun found => ?_
  obtain ⟨_ | proposal, _ | run, _ | checkpoint⟩ := found
  all_goals first | trivial | exact resumeLoaded_nonStop ..

end DurableApprovalFlow

namespace RecoveryCoordinator

theorem appendEvent_plain (run : Run) (proposal : Option ActionProposal) (type : AuditEventType)
    (reasonCode : String) (h : Sha256Digest) :
    (appendEvent run proposal type reasonCode h).Issues Req.plain := by
  simp [appendEvent, Req.plain, Op.guarded]

theorem outcome_plain (run : Run) (proposal : Option ActionProposal) (verdict : RecoveryVerdict)
    (type : AuditEventType) : (outcome run proposal verdict type).Issues Req.plain := by
  refine issues_freshId_bind.mpr ⟨trivial, fun eventId => issues_catching ?_ trivial fun _ => ?_⟩
  · simp [Req.plain, Op.guarded]
  · split <;> trivial

theorem auditedFailure_plain (run : Run) (proposal : Option ActionProposal)
    (failure : FailureDetail) (type : AuditEventType) :
    (auditedFailure run proposal failure type).Issues Req.plain :=
  issues_catching (appendEvent_plain ..) trivial fun _ => trivial

theorem operatorRequired_plain (run : Run) (proposal : Option ActionProposal)
    (code message : String) (observed : Option Ec2InstanceState) :
    (operatorRequired run proposal code message observed).Issues Req.plain := outcome_plain ..

theorem markRecoveryRequired_plain (run : Run) : (markRecoveryRequired run).Issues Req.plain := by
  unfold markRecoveryRequired
  split
  · trivial
  refine issues_catching ?_ trivial fun _ => trivial
  simp only [issues_op_bind]
  refine ⟨rfl, fun current => ?_⟩
  rcases current with _ | current
  · trivial
  dsimp only
  split <;> simp [Req.plain, Op.guarded]

theorem readSnapshot_plain (request : RecoveryRequest) :
    (readSnapshot request).Issues Req.plain := by
  have lookups {α : Type} {proposal : Option ActionProposal}
      {read : ActionProposal → Flow (Option α)} (h : ∀ p, (read p).Issues Req.plain) :
      (lookupFor proposal read).Issues Req.plain := by
    unfold lookupFor
    split
    · trivial
    · exact h _
  have requested : (requestedProposal request).Issues Req.plain := by
    unfold requestedProposal
    split
    · trivial
    · exact issues_op.mpr rfl
  refine issues_op_bind.mpr ⟨rfl, fun run => ?_⟩
  rcases run with _ | run
  · trivial
  refine Issues.bind (requested.bind fun proposal => issues_op_bind.mpr ⟨rfl, fun checkpoint => ?_⟩)
    fun _ => trivial
  refine Issues.bind (lookups fun p => issues_op.mpr rfl) fun approval => ?_
  refine Issues.bind (lookups fun p => issues_op.mpr rfl) fun record => ?_
  exact Issues.bind (lookups fun p => issues_op.mpr rfl) fun evidence => trivial

theorem appendObservationEvent_plain (run : Run) (proposal : ActionProposal)
    (o : VerificationObservation) : (appendObservationEvent run proposal o).Issues Req.plain :=
  issues_catching (appendEvent_plain ..) trivial fun _ => trivial

theorem completeFailed_plain (s : Snapshot) (run : Run) :
    (completeFailed s run).Issues Req.plain :=
  (markRecoveryRequired_plain run).bind fun _ => auditedFailure_plain ..

theorem claimActiveRecovery_nonStop (cfg : RecoveryConfig) (run : Run) (proposal : ActionProposal)
    (checkpoint : Option Checkpoint) :
    (claimActiveRecovery cfg run proposal checkpoint).Issues Req.nonStop := by
  rcases checkpoint with _ | checkpoint
  · trivial
  refine issues_clock_bind.mpr ⟨trivial, fun now => ?_⟩
  split
  · trivial
  refine issues_freshId_bind.mpr ⟨trivial, fun id => ?_⟩
  split
  · trivial
  refine issues_ofExcept_bind fun claimed => ?_
  refine issues_tryExcept (issues_op.mpr trivial) (fun e h he => ?_) fun _ => trivial
  unfold claimHandler at he
  split at he <;> cases he <;> trivial

theorem enterVerifying_quiet (run : Run) : (enterVerifying run).Issues Req.quiet := by
  unfold enterVerifying
  split
  · exact issues_clock_bind.mpr ⟨trivial, fun _ => issues_op.mpr trivial⟩
  · trivial

theorem closeVerified_quiet (run : Run) (proposal : ActionProposal) :
    (closeVerified run proposal).Issues Req.quiet := by
  refine Issues.bind ?_ fun run => ?_
  · unfold reenterVerifying
    split
    · exact issues_clock_bind.mpr ⟨trivial, fun _ => issues_op.mpr trivial⟩
    · trivial
  · unfold enterSuccess
    split
    · exact issues_clock_bind.mpr ⟨trivial, fun _ => issues_op.mpr trivial⟩
    · trivial

theorem returnVerified_quiet (s : Snapshot) : (returnVerified s).Issues Req.quiet := by
  have audited (failure : FailureDetail) (type : AuditEventType) :
      (auditedFailure s.run s.proposal failure type).Issues Req.quiet :=
    (auditedFailure_plain ..).mono Req.quiet_of_plain
  unfold returnVerified
  split
  · split
    · exact audited ..
    · refine issues_catching (closeVerified_quiet ..) (audited ..) fun run => ?_
      split
      · exact (operatorRequired_plain ..).mono Req.quiet_of_plain
      · exact (outcome_plain ..).mono Req.quiet_of_plain
  · exact audited ..

theorem completeFromRecoveryObservation_quiet (s : Snapshot) (proposal : ActionProposal)
    (o : VerificationObservation) :
    (completeFromRecoveryObservation s proposal o).Issues Req.quiet := by
  have failed (run : Run) : (completeFailed s run).Issues Req.quiet :=
    (completeFailed_plain ..).mono Req.quiet_of_plain
  refine issues_catching (enterVerifying_quiet _) (failed _) fun run => ?_
  refine issues_catching ?_ (failed _) fun ⟨evidence, run⟩ =>
    (outcome_plain ..).mono Req.quiet_of_plain
  refine issues_freshId_bind.mpr ⟨trivial, fun _ => issues_clock_bind.mpr ⟨trivial, fun _ => ?_⟩⟩
  refine issues_ofExcept_bind fun evidence => issues_op_bind.mpr ⟨trivial, fun e => ?_⟩
  refine issues_clock_bind.mpr ⟨trivial, fun _ => issues_op_bind.mpr ⟨trivial, fun _ => ?_⟩⟩
  refine ((appendEvent_plain ..).mono Req.quiet_of_plain).bind fun _ => ?_
  exact issues_clock_bind.mpr ⟨trivial, fun _ => issues_op_bind.mpr ⟨trivial, fun _ => trivial⟩⟩

theorem readBackLoop_quiet (cfg : RecoveryConfig) (target : SandboxTarget) (s : Snapshot)
    (proposal : ActionProposal) (left : Nat) : ∀ (attempt : Nat) (last : Option Ec2InstanceState),
      (readBackLoop cfg target s proposal left attempt last).Issues Req.quiet := by
  have marked {β : Type} {p : Flow β} (hp : p.Issues Req.plain) :
      (markRecoveryRequired s.run >>= fun _ => p).Issues Req.quiet :=
    ((markRecoveryRequired_plain s.run).bind fun _ => hp).mono Req.quiet_of_plain
  induction left with
  | zero => exact fun _ _ => marked (operatorRequired_plain ..)
  | succ left ih =>
    intro attempt last
    refine issues_clock_bind.mpr ⟨trivial, fun t => ?_⟩
    refine ((BoundedVerificationCoordinator.observe_plain ..).mono Req.quiet_of_plain).bind
      fun answer => ?_
    cases answer with
    | failed failure => exact marked (auditedFailure_plain ..)
    | succeeded o =>
      refine ((appendObservationEvent_plain ..).mono Req.quiet_of_plain).bind fun audit => ?_
      rcases audit with _ | failure
      · dsimp only
        split
        · exact completeFromRecoveryObservation_quiet ..
        · exact marked (operatorRequired_plain ..)
        · split
          · exact (issues_sleep.mpr trivial).bind fun _ => ih ..
          · exact ih ..
        · exact marked (operatorRequired_plain ..)
      · exact marked trivial

theorem continueVerification_quiet (setup : RecoverySetup) (s : Snapshot) (run : Run)
    (proposal : ActionProposal) (unavailable code reason : String) :
    (continueVerification setup.config s run proposal unavailable code reason).Issues
      Req.quiet := by
  unfold continueVerification
  split
  · exact (operatorRequired_plain ..).mono Req.quiet_of_plain
  · rename_i reconcile hr
    obtain ⟨c, -, rfl⟩ := Option.map_eq_some_iff.mp hr
    refine (BoundedVerificationCoordinator.verify_quiet ..).bind fun result => ?_
    cases result with
    | succeeded completion => exact (outcome_plain ..).mono Req.quiet_of_plain
    | failed failure => exact (auditedFailure_plain ..).mono Req.quiet_of_plain

theorem recoverExecution_nonStop (setup : RecoverySetup) (s : Snapshot)
    (proposal : ActionProposal) :
    (recoverExecution setup.config s proposal).Issues Req.nonStop := by
  have audited (failure : FailureDetail) (type : AuditEventType) :
      (auditedFailure s.run s.proposal failure type).Issues Req.nonStop :=
    (auditedFailure_plain ..).mono Req.nonStop_of_plain
  have operator (code message : String) (observed : Option Ec2InstanceState) :
      (operatorRequired s.run s.proposal code message observed).Issues Req.nonStop :=
    (operatorRequired_plain ..).mono Req.nonStop_of_plain
  unfold recoverExecution
  split
  · exact audited ..
  split
  · exact operator ..
  split
  · exact (returnVerified_quiet s).mono Req.nonStop_of_quiet
  split
  · exact operator ..
  refine (claimActiveRecovery_nonStop ..).bind fun claimed => ?_
  cases claimed with
  | failed failure => exact audited ..
  | succeeded _ =>
    dsimp only
    split
    · exact issues_catching ((enterVerifying_quiet _).mono Req.nonStop_of_quiet) (audited ..)
        fun run => (continueVerification_quiet ..).mono Req.nonStop_of_quiet
    · unfold reconcileMissingAck
      split
      · exact operator ..
      · exact (readBackLoop_quiet ..).mono Req.nonStop_of_quiet

theorem recoverVerification_nonStop (setup : RecoverySetup) (s : Snapshot)
    (proposal : ActionProposal) :
    (recoverVerification setup.config s proposal).Issues Req.nonStop := by
  unfold recoverVerification
  split
  · exact (operatorRequired_plain ..).mono Req.nonStop_of_plain
  split
  · exact (returnVerified_quiet s).mono Req.nonStop_of_quiet
  refine (claimActiveRecovery_nonStop ..).bind fun claimed => ?_
  cases claimed with
  | failed failure => exact (auditedFailure_plain ..).mono Req.nonStop_of_plain
  | succeeded _ => exact (continueVerification_quiet ..).mono Req.nonStop_of_quiet

theorem recoverAwaitingApproval_nonStop (setup : RecoverySetup) (s : Snapshot)
    (proposal : ActionProposal) :
    (recoverAwaitingApproval setup.config s proposal).Issues Req.nonStop := by
  have audited (failure : FailureDetail) (type : AuditEventType) :
      (auditedFailure s.run s.proposal failure type).Issues Req.nonStop :=
    (auditedFailure_plain ..).mono Req.nonStop_of_plain
  unfold recoverAwaitingApproval
  split
  · exact audited ..
  split
  · exact audited ..
  split
  · exact (operatorRequired_plain ..).mono Req.nonStop_of_plain
  · rename_i reconstruct hr
    obtain ⟨runtime, -, rfl⟩ := Option.map_eq_some_iff.mp hr
    refine (DurableApprovalFlow.request_nonStop ..).bind fun result => ?_
    cases result with
    | succeeded interrupt => exact (outcome_plain ..).mono Req.nonStop_of_plain
    | failed failure => exact audited ..

theorem recoverApproved_plain (s : Snapshot) (proposal : ActionProposal) :
    (recoverApproved s proposal).Issues Req.plain := by
  unfold recoverApproved
  split
  · exact auditedFailure_plain ..
  split
  · exact outcome_plain ..
  · exact operatorRequired_plain ..

theorem recover_nonStop (setup : RecoverySetup) (request : RecoveryRequest) :
    (recover setup.config request).Issues Req.nonStop := by
  have decided (s : Snapshot) (verdict : RecoveryVerdict) (type : AuditEventType) :
      (outcome s.run s.proposal verdict type).Issues Req.nonStop :=
    (outcome_plain ..).mono Req.nonStop_of_plain
  refine issues_catching ((readSnapshot_plain request).mono Req.nonStop_of_plain) trivial
    fun found => ?_
  rcases found with _ | s
  · trivial
  refine issues_ofExcept_bind fun refused => ?_
  rcases refused with _ | failure
  · dsimp only [recoverSnapshot]
    split
    · exact decided ..
    split
    · trivial
    rename_i proposal _
    unfold recoverProposal
    split
    · exact decided ..
    · exact recoverAwaitingApproval_nonStop ..
    · exact (recoverApproved_plain ..).mono Req.nonStop_of_plain
    · exact recoverExecution_nonStop ..
    · exact recoverExecution_nonStop ..
    · exact recoverVerification_nonStop ..
    · exact (returnVerified_quiet s).mono Req.nonStop_of_quiet
    · exact decided ..
  · exact (auditedFailure_plain ..).mono Req.nonStop_of_plain

end RecoveryCoordinator

namespace LocalHitlExecutionFlow

theorem appendEvent_plain (cfg : LocalHitlConfig) (run : Run) (type : AuditEventType)
    (h : Sha256Digest) (m : Dict String String) :
    (appendEvent cfg run type h m).Issues Req.plain := by
  refine issues_freshId_bind.mpr ⟨trivial, fun _ => issues_clock_bind.mpr ⟨trivial, fun _ => ?_⟩⟩
  dsimp only
  split
  · trivial
  · exact issues_op_bind.mpr ⟨rfl, fun _ => trivial⟩

theorem auditPolicyDenial_plain (cfg : LocalHitlConfig) (run : Run) (p : RemediationProposal)
    (code : String) : (auditPolicyDenial cfg run p code).Issues Req.plain :=
  issues_catching (appendEvent_plain ..) trivial fun _ => trivial

theorem load_plain (runId : UUID) : (load runId).Issues Req.plain := by
  refine issues_tryExcept (by simp [Req.plain, Op.guarded]) (fun e h he => ?_) fun _ => trivial
  split at he <;> cases he <;> trivial

theorem persistExecutionFailure_plain {run : Run} {target : WorkflowState}
    (ht : target ≠ .verifying) (kind : FailureKind) (code message : String) :
    (persistExecutionFailure run target kind code message).Issues Req.plain := by
  refine issues_catching ?_ trivial fun _ => trivial
  split
  · simp [Req.plain, Op.guarded, ht]
  · trivial

theorem markRecoveryRequired_plain (run : Run) (code message : String) :
    (markRecoveryRequired run code message).Issues Req.plain :=
  persistExecutionFailure_plain (by decide) ..

theorem markVerificationFailed_plain (run : Run) (code message : String) :
    (markVerificationFailed run code message).Issues Req.plain :=
  persistExecutionFailure_plain (by decide) ..

theorem moveRun_plain (run : Run) (approval : LocalApprovalDecisionRecord) :
    (moveRun run approval).Issues Req.plain := by
  unfold moveRun
  split
  · split
    · trivial
    · refine issues_clock_bind.mpr ⟨trivial, fun _ => issues_op.mpr ?_⟩
      simp [Req.plain, Op.guarded]
  · trivial

theorem obtainReceipt_plain (l : Loaded) (approval : LocalApprovalDecisionRecord)
    (intent : LocalExecutionIntent) (checkpoint : Checkpoint) :
    (obtainReceipt l approval intent checkpoint).Issues Req.plain := by
  unfold obtainReceipt
  split
  · trivial
  · refine (issues_mockGetReceipt.mpr trivial).bind fun found => ?_
    rcases found with _ | receipt
    · exact issues_mockExecute.mpr trivial
    · trivial

theorem executionHandler_plain {run : Run} {e : PyExc} {h : Flow Stage}
    (he : executionHandler run e = some h) : h.Issues Req.plain := by
  unfold executionHandler at he
  split at he
  · cases he
    exact (persistExecutionFailure_plain (by decide) ..).bind fun _ => trivial
  · cases he
    exact (markRecoveryRequired_plain ..).bind fun _ => trivial
  · cases he
    exact (persistExecutionFailure_plain (by decide) ..).bind fun _ => trivial
  · cases he
    exact (persistExecutionFailure_plain (by decide) ..).bind fun _ => trivial
  · split at he <;> cases he
    trivial

theorem verificationHandler_plain {run : Run} {e : PyExc} {h : Flow Stage}
    (he : verificationHandler run e = some h) : h.Issues Req.plain := by
  unfold verificationHandler at he
  split at he
  · cases he
    exact (markVerificationFailed_plain ..).bind fun _ => trivial
  · cases he
    exact (markVerificationFailed_plain ..).bind fun _ => trivial
  · cases he
    exact (markVerificationFailed_plain ..).bind fun _ => trivial
  · cases he
    exact (persistExecutionFailure_plain (by decide) ..).bind fun _ => trivial
  · split at he <;> cases he
    trivial

theorem saveNext_nonStop (checkpoint : Checkpoint) (safe : WorkflowState)
    (metadata : List (String × String)) (update : CheckpointFields → CheckpointFields) :
    (saveNext checkpoint safe metadata update).Issues Req.nonStop := by
  refine Issues.bind (issues_clock_bind.mpr ⟨trivial, fun _ => issues_ofExcept _⟩) fun _ => ?_
  exact issues_op.mpr trivial

theorem applyDecisionState_nonStop (run : Run) (checkpoint : Checkpoint)
    (approval : LocalApprovalDecisionRecord) :
    (applyDecisionState run checkpoint approval).Issues Req.nonStop := by
  refine issues_tryExcept ?_ (fun e h he => ?_) fun _ => trivial
  · refine ((moveRun_plain ..).mono Req.nonStop_of_plain).bind fun run => ?_
    refine Issues.bind ?_ fun _ => trivial
    unfold saveDecisionState
    split
    · exact saveNext_nonStop ..
    · trivial
  · split at he <;> cases he <;> trivial

theorem requestApproval_nonStop (cfg : LocalHitlConfig) (runId : UUID)
    (principal : LocalOperatorPrincipal) :
    (requestApproval cfg runId principal).Issues Req.nonStop := by
  refine ((load_plain runId).mono Req.nonStop_of_plain).bind fun found => ?_
  cases found with
  | failed failure => trivial
  | succeeded l =>
    dsimp only [requestLoaded]
    split
    · trivial
    split
    · trivial
    refine issues_clock_bind.mpr ⟨trivial, fun now => ?_⟩
    split
    · trivial
    refine issues_nonce_bind.mpr ⟨trivial, fun nonce => ?_⟩
    split
    · trivial
    refine issues_catching ?_ trivial fun _ => trivial
    refine issues_freshId_bind.mpr ⟨trivial, fun id => issues_ofExcept_bind fun request => ?_⟩
    refine (saveNext_nonStop ..).bind fun _ => ?_
    exact ((appendEvent_plain ..).mono Req.nonStop_of_plain).bind fun _ => trivial

theorem decide_nonStop (cfg : LocalHitlConfig) (d : LocalDecisionRequest)
    (principal : LocalOperatorPrincipal) :
    (LocalHitlExecutionFlow.decide cfg d principal).Issues Req.nonStop := by
  have denied (l : Loaded) (code : String) {β : Type} (r : β) :
      (auditPolicyDenial cfg l.run l.proposal code >>= fun _ => (pure r : Flow β)).Issues
        Req.nonStop :=
    ((auditPolicyDenial_plain ..).mono Req.nonStop_of_plain).bind fun _ => trivial
  refine ((load_plain d.runId).mono Req.nonStop_of_plain).bind fun found => ?_
  cases found with
  | failed failure => trivial
  | succeeded l =>
    dsimp only [decideLoaded]
    split
    · trivial
    split
    · exact denied ..
    split
    · unfold replayDecision
      split
      · trivial
      · refine (applyDecisionState_nonStop ..).bind fun applied => ?_
        cases applied <;> trivial
    · refine issues_clock_bind.mpr ⟨trivial, fun now => ?_⟩
      split
      · exact denied ..
      refine issues_catching (saveNext_nonStop ..) trivial fun checkpoint => ?_
      refine (applyDecisionState_nonStop ..).bind fun applied => ?_
      rcases applied with ⟨run, checkpoint⟩ | failure
      · refine issues_catching ((appendEvent_plain ..).mono Req.nonStop_of_plain) trivial
          fun _ => ?_
        split <;> trivial
      · trivial

theorem ownership_nonStop (cfg : LocalHitlConfig) (l : Loaded)
    (approval : LocalApprovalDecisionRecord) (run : Run) (checkpoint : Checkpoint) :
    (establishOwnership cfg l approval run checkpoint).Issues Req.nonStop := by
  unfold establishOwnership
  split
  · trivial
  refine issues_catching ?_ trivial fun _ => trivial
  refine Issues.bind ?_ fun ⟨intent, checkpoint⟩ => ?_
  · unfold registerIntent
    split
    · trivial
    refine issues_clock_bind.mpr ⟨trivial, fun _ => issues_ofExcept_bind fun intent => ?_⟩
    refine (saveNext_nonStop ..).bind fun _ => ?_
    exact ((appendEvent_plain ..).mono Req.nonStop_of_plain).bind fun _ => trivial
  · refine issues_clock_bind.mpr ⟨trivial, fun _ => issues_op_bind.mpr ⟨trivial, fun run => ?_⟩⟩
    exact ((appendEvent_plain ..).mono Req.nonStop_of_plain).bind fun _ => trivial

theorem executeIntent_nonStop (cfg : LocalHitlConfig) (l : Loaded)
    (approval : LocalApprovalDecisionRecord) (run : Run) (checkpoint : Checkpoint) :
    (executeIntent cfg l approval run checkpoint).Issues Req.nonStop := by
  unfold executeIntent
  split
  · trivial
  split
  · exact ((markRecoveryRequired_plain ..).mono Req.nonStop_of_plain).bind fun _ => trivial
  refine issues_tryExcept ?_ (fun e h he => (executionHandler_plain he).mono Req.nonStop_of_plain)
    fun _ => trivial
  refine ((obtainReceipt_plain ..).mono Req.nonStop_of_plain).bind fun receipt => ?_
  refine Issues.bind ?_ fun checkpoint => ?_
  · unfold recordReceipt
    split
    · exact saveNext_nonStop ..
    · trivial
  · refine issues_clock_bind.mpr ⟨trivial, fun _ => issues_op_bind.mpr ⟨trivial, fun run => ?_⟩⟩
    exact ((appendEvent_plain ..).mono Req.nonStop_of_plain).bind fun _ => trivial

theorem verifyReceipt_nonStop (cfg : LocalHitlConfig) (l : Loaded) (run : Run)
    (checkpoint : Checkpoint) : (verifyReceipt cfg l run checkpoint).Issues Req.nonStop := by
  unfold verifyReceipt
  split
  · trivial
  split
  · exact ((markVerificationFailed_plain ..).mono Req.nonStop_of_plain).bind fun _ => trivial
  refine issues_tryExcept ?_
    (fun e h he => (verificationHandler_plain he).mono Req.nonStop_of_plain) fun _ => trivial
  refine Issues.bind ?_ fun ⟨verification, checkpoint⟩ => ?_
  · unfold obtainVerification
    split
    · trivial
    · refine (issues_mockVerify.mpr trivial).bind fun verification => ?_
      exact (saveNext_nonStop ..).bind fun _ => trivial
  · refine issues_clock_bind.mpr ⟨trivial, fun _ => issues_op_bind.mpr ⟨trivial, fun run => ?_⟩⟩
    refine (saveNext_nonStop ..).bind fun _ => ?_
    exact ((appendEvent_plain ..).mono Req.nonStop_of_plain).bind fun _ => trivial

theorem resume_nonStop (cfg : LocalHitlConfig) (runId : UUID) (principal : LocalOperatorPrincipal) :
    (resume cfg runId principal).Issues Req.nonStop := by
  refine ((load_plain runId).mono Req.nonStop_of_plain).bind fun found => ?_
  cases found with
  | failed failure => trivial
  | succeeded l =>
    dsimp only [resumeLoaded]
    split
    · trivial
    split
    · exact ((auditPolicyDenial_plain ..).mono Req.nonStop_of_plain).bind fun _ => trivial
    split
    · refine (applyDecisionState_nonStop ..).bind fun applied => ?_
      cases applied with
      | failed failure => trivial
      | succeeded applied => exact issues_ofExcept_bind fun _ => trivial
    split
    · unfold resumeSucceeded
      split
      · exact issues_catching (saveNext_nonStop ..) trivial fun _ => issues_ofExcept _
      · exact issues_ofExcept _
    refine Issues.bind ?_ fun applied => ?_
    · unfold applyIfAwaiting
      split
      · exact applyDecisionState_nonStop ..
      · trivial
    rcases applied with ⟨run, checkpoint⟩ | failure
    · refine issues_clock_bind.mpr ⟨trivial, fun now => ?_⟩
      split
      · exact (markRecoveryRequired_plain ..).mono Req.nonStop_of_plain
      refine (ownership_nonStop ..).bind fun owned => ?_
      rcases owned with result | ⟨run, checkpoint⟩
      · trivial
      refine (executeIntent_nonStop ..).bind fun executed => ?_
      rcases executed with result | ⟨run, checkpoint⟩
      · trivial
      refine (verifyReceipt_nonStop ..).bind fun closed => ?_
      rcases closed with result | ⟨run, checkpoint⟩
      · trivial
      · exact issues_ofExcept _
    · trivial

end LocalHitlExecutionFlow

end CloudOpsAgent
