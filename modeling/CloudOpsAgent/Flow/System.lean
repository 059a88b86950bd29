/-
  The system: any number of calls of the control flows, interleaved at single requests.

  A `Call` is one invocation of one entry point with its configuration and arguments, or one bare
  repository operation (what the flows outside this development do to the store: creating runs,
  proposals and checkpoints).  `Reachable calls c` says that some interleaving of the calls of
  `calls`, from an empty repository, leads to `c`; a call that crashed is one that is not scheduled
  again.

  `recover` is configured as the composition root does it: its verification reconciler is
  `BoundedVerificationCoordinator.verify`, its approval reconstructor `DurableApprovalFlow.request`.

  `play` is one interleaving that can be computed: the calls of a list one after the other, each
  alone in its environment, which shows that a configuration can be reached.
-/
import CloudOpsAgent.Flow.Solo
import CloudOpsAgent.Recovery.Coordinator
import CloudOpsAgent.Agent.LocalHitl

namespace CloudOpsAgent

open ClientProg ClientProg.Prog

/-- How one `RecoveryCoordinator` is put together. -/
structure RecoverySetup where
  settings : VerificationSettings
  leaseSeconds : Nat := 30
  lease_ok : 1 ≤ leaseSeconds ∧ leaseSeconds ≤ 300
  /-- The target of its read-back service. -/
  readback : Option SandboxTarget := none
  /-- Settings and target of the verification coordinator it reconciles with. -/
  reconciler : Option (VerificationSettings × SandboxTarget) := none
  reconstructor : Option PrimaryAgentRuntime := none

variable [Sha256]

def RecoverySetup.config (s : RecoverySetup) : RecoveryConfig where
  approvalReconstructor := s.reconstructor.map DurableApprovalFlow.request
  verificationReconciler := s.reconciler.map fun c => BoundedVerificationCoordinator.verify c.1 c.2
  readbackService := s.readback
  settings := s.settings
  leaseSeconds := s.leaseSeconds
  lease_ok := s.lease_ok

/-- One invocation. -/
inductive Call where
  | execute (proposalId : UUID)
  | verify (settings : VerificationSettings) (target : SandboxTarget) (proposalId : UUID)
  | recover (setup : RecoverySetup) (request : RecoveryRequest)
  | requestApproval (runtime : PrimaryAgentRuntime) (proposalId : UUID)
  | resumeApproval (runtime : PrimaryAgentRuntime) (response : ApprovalResumeRequest)
  | requestLocal (cfg : LocalHitlConfig) (runId : UUID) (principal : LocalOperatorPrincipal)
  | decideLocal (cfg : LocalHitlConfig) (d : LocalDecisionRequest)
      (principal : LocalOperatorPrincipal)
  | resumeLocal (cfg : LocalHitlConfig) (runId : UUID) (principal : LocalOperatorPrincipal)
  | operation (op : Op)

/-- What an invocation returns. -/
inductive Reply where
  | executed (result : ControlResult ExecutionAcknowledgement)
  | verified (result : ControlResult VerificationCompletion)
  | recovered (result : ControlResult RecoveryOutcome)
  | approvalRequested (result : ControlResult ApprovalInterrupt)
  | approvalResumed (result : ControlResult ApprovalResolution)
  | localRequested (result : ControlResult LocalApprovalChallenge)
  | localDecided (result : ControlResult LocalApprovalResolution)
  | localResumed (result : ControlResult LocalExecutionCompletion)
  | operated (op : Op) (value : op.Result)

/-- The program of an invocation. -/
def Call.flow : Call → Flow Reply
  | .execute proposalId => do
    let result ← StopSandboxInstanceCoordinator.execute proposalId
    return .executed result
  | .verify settings target proposalId => do
    let result ← BoundedVerificationCoordinator.verify settings target proposalId
    return .verified result
  | .recover setup request => do
    let result ← RecoveryCoordinator.recover setup.config request
    return .recovered result
  | .requestApproval runtime proposalId => do
    let result ← DurableApprovalFlow.request runtime proposalId
    return .approvalRequested result
  | .resumeApproval runtime response => do
    let result ← DurableApprovalFlow.resume runtime response
    return .approvalResumed result
  | .requestLocal cfg runId principal => do
    let result ← LocalHitlExecutionFlow.requestApproval cfg runId principal
    return .localRequested result
  | .decideLocal cfg d principal => do
    let result ← LocalHitlExecutionFlow.decide cfg d principal
    return .localDecided result
  | .resumeLocal cfg runId principal => do
    let result ← LocalHitlExecutionFlow.resume cfg runId principal
    return .localResumed result
  | .operation op => do
    let value ← Flow.op op
    return .operated op value

/-! ## Reachable configurations -/

variable {ι : Type}

/-- An empty repository, and every call about to start. -/
def start (calls : ι → Call) : Config ι (World ι) Req Req.Ans PyExc Reply :=
  ⟨World.initial, fun i => (calls i).flow⟩

/-- Some interleaving of the calls leads to `c`. -/
def Reachable [DecidableEq ι] (calls : ι → Call)
    (c : Config ι (World ι) Req Req.Ans PyExc Reply) : Prop := Steps answers (start calls) c

section Alone

variable [DecidableEq ι] {calls : ι → Call} {c : Config ι (World ι) Req Req.Ans PyExc Reply}

/-- One client runs to its end, alone. -/
theorem Reachable.ran (hc : Reachable calls c) (e : Environment) (i : ι) :
    Reachable calls ⟨((c.threads i).run (e.respond i) ⟨c.world, 0⟩).2.world,
      Function.update c.threads i (ofExcept ((c.threads i).run (e.respond i) ⟨c.world, 0⟩).1)⟩ :=
  Relation.ReflTransGen.trans hc (e.steps_solo i ⟨c.world, 0⟩ c.threads)

/-- One client runs alone and suffers a fault. -/
theorem Reachable.struck (hc : Reachable calls c) (e : Environment) (i : ι) (fault : Fault)
    (left : Option Nat) : ∃ q, Reachable calls
      ⟨(e.faulty i fault (c.threads i) left ⟨c.world, 0⟩).final.world,
        Function.update c.threads i q⟩ := by
  obtain ⟨q, hq⟩ := e.steps_faulty i fault (c.threads i) left ⟨c.world, 0⟩ c.threads rfl
  exact ⟨q, Relation.ReflTransGen.trans hc hq⟩

end Alone

/-! ## Calls one after the other -/

/-- Run the clients of a list to their ends, one after the other. -/
def play [DecidableEq ι] (e : ι → Environment) :
    List ι → Config ι (World ι) Req Req.Ans PyExc Reply →
      Config ι (World ι) Req Req.Ans PyExc Reply
  | [], c => c
  | i :: rest, c =>
    let r := (c.threads i).run ((e i).respond i) ⟨c.world, 0⟩
    play e rest ⟨r.2.world, Function.update c.threads i (ofExcept r.1)⟩

theorem steps_play [DecidableEq ι] (e : ι → Environment) (l : List ι) :
    ∀ c : Config ι (World ι) Req Req.Ans PyExc Reply, Steps answers c (play e l c) := by
  induction l with
  | nil => exact fun _ => .refl
  | cons i rest ih =>
    exact fun c => ((e i).steps_solo i ⟨c.world, 0⟩ c.threads).trans (ih _)

theorem reachable_play [DecidableEq ι] (calls : ι → Call) (e : ι → Environment) (l : List ι) :
    Reachable calls (play e l (start calls)) := steps_play e l _

theorem play_threads [DecidableEq ι] (e : ι → Environment) {i : ι} (l : List ι) (hi : i ∉ l) :
    ∀ c : Config ι (World ι) Req Req.Ans PyExc Reply, (play e l c).threads i = c.threads i := by
  induction l with
  | nil => exact fun _ => rfl
  | cons j rest ih =>
    intro c
    have hne : i ≠ j := fun h => hi (h ▸ List.mem_cons_self)
    simp only [play]
    rw [ih fun h => hi (List.mem_cons_of_mem _ h)]
    exact Function.update_of_ne hne _ _

/-! ## A sample run

  One stop run from its creation to a human approval, as the operations the flows make on the
  repository.  Witnesses and counterexamples start from it. -/

namespace Sample

/-- A digest function that can be evaluated; the sample run does not depend on it. -/
abbrev digest : Sha256 := ⟨fun _ => ⟨0⟩⟩

def uid (n : Nat) : UUID := ⟨BitVec.ofNat 48 n, 1, 1⟩

/-- The identifiers of the environments do not repeat. -/
theorem uid_injective {m n : Nat} (hm : m < 2 ^ 48) (hn : n < 2 ^ 48) (h : uid m = uid n) :
    m = n := by
  have := congrArg (fun u : UUID => u.1.toNat) h
  simp [uid] at this
  omega

section

omit [Sha256]

theorem budget_bounded : 0 < 10 ∧ 10 ≤ 1000 ∧ 0 < 1000 ∧ 1000 ≤ 10000000 ∧ 0 < 60 ∧ 60 ≤ 3600 ∧
    0 ≤ 3600000 := by decide

theorem budget_unused : 0 ≤ 10 ∧ 0 ≤ 1000 ∧ 0 ≤ 60 * 1000 := by decide

theorem just_created : (0 : Time) ≤ 0 := le_rfl

theorem sixth_version : 0 < 6 := by decide

theorem stopping_acknowledged : ObservedInstanceState.stopping = .stopping ∨
    ObservedInstanceState.stopping = .stopped := .inl rfl

end

def run : Run :=
  ⟨uid 1, uid 2, uid 3, "request", .received, 0, 0,
    ⟨10, 1000, 60, 0, 0, 0, budget_bounded, budget_unused⟩, 1, Nat.one_pos, just_created⟩

def target : ActionTarget := ⟨"i-0123456789abcdef0", "sandbox", "AIOACloudOpsSandbox", "true"⟩

def sandbox : SandboxTarget := { instanceId := "i-0123456789abcdef0" }

/-- The proposal as the run's approval finds it. -/
def proposal : ActionProposal :=
  ⟨uid 4, uid 1, .stopSandboxInstance, target, ⟨.running, 0, ⟨0⟩⟩,
    Capability.stopSandboxInstance.authority, .awaitingApproval, ⟨0⟩, 0, rfl, rfl, rfl, rfl⟩

def approval : Approval :=
  ⟨uid 4, uid 1, .stopSandboxInstance, target, ⟨0⟩, "interrupt", ⟨0⟩, .approved, 0, "operator", "nonce",
    rfl⟩

def checkpoint : Checkpoint where
  runId := uid 1
  lastSafeState := .approved
  resumeMetadata := Dict.ofPairs [("proposal_id", .str (uid 4).str)]
  toolResultHashes := Dict.ofPairs [("build_remediation_evidence", ⟨0⟩)]
  createdAt := 0
  valid := rfl

/-- From the creation of the run to its approval. -/
def approved : List Op := [
  .createRun run,
  .transitionRun (uid 1) .investigating .received 1 0 none none,
  .transitionRun (uid 1) .evidenceReady .investigating 2 0 none none,
  .createProposal { proposal with state := .proposed },
  .transitionRun (uid 1) .remediationProposed .evidenceReady 3 0 none none,
  .transitionProposal (uid 4) .awaitingApproval .proposed,
  .transitionRun (uid 1) .awaitingApproval .remediationProposed 4 0 none none,
  .createApproval approval,
  .transitionRun (uid 1) .approved .awaitingApproval 5 0 (some (uid 4)) none,
  .saveCheckpoint checkpoint none]

/-- A target that stays stopped, fresh identifiers from `k` on, and an executor that answers `x`. -/
def environment (k : Nat) (x : StopExecutionCommand → Except PyExc ExecutionAcknowledgement) :
    Environment where
  now n := k + n
  now_mono _ _ h := Nat.add_le_add_left h k
  ids n := uid (k + n)
  inspections _ := .succeeded ⟨.stopped, ⟨0⟩⟩
  acknowledge := x

/-- An executor that acknowledges. -/
def acknowledges (command : StopExecutionCommand) : Except PyExc ExecutionAcknowledgement :=
  .ok ⟨command.proposalId, command.runId, command.target, .stopping, none, 0, ⟨0⟩, stopping_acknowledged⟩

def recovery : RecoverySetup where
  settings := ⟨3, 1, by decide, by decide⟩
  lease_ok := by decide
  readback := some sandbox
  reconciler := some (⟨3, 1, by decide, by decide⟩, sandbox)

/-- The approval, then duplicate deliveries of the proposal, a recovery and a verification. -/
def calls (i : Nat) : Call :=
  ((approved.map .operation ++ [.execute (uid 4), .execute (uid 4),
    .recover recovery ⟨uid 1, some (uid 4)⟩, .verify ⟨3, 1, by decide, by decide⟩ sandbox (uid 4)])[i]?).getD
    (.operation (.getRun (uid 1)))

/-- The configuration after the approval. -/
def start : Config Nat (World Nat) Req Req.Ans PyExc Reply :=
  play (fun _ => environment 0 acknowledges) (List.range 10) (CloudOpsAgent.start calls)

/-- The two deliveries and the verification, after the approval. -/
def finish : Config Nat (World Nat) Req Req.Ans PyExc Reply :=
  play (fun i => environment (100 * i) acknowledges) [10, 11, 13] start

theorem reachable_finish : Reachable calls finish :=
  Relation.ReflTransGen.trans (reachable_play ..) (steps_play ..)

end Sample

end CloudOpsAgent
