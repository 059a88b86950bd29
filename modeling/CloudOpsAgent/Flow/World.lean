/-
  The world the control flows run in.

  A flow is a program (`Flow`) whose requests are everything it cannot compute by itself: repository
  operations, the clock, fresh identifiers, EC2 read-backs, the private executor, the Strands agent,
  the local mock executor.  `answers` says how the world may respond:

  * a repository operation takes effect atomically or not at all, and in either case may report a
    storage failure instead of its result — before or after taking effect;
  * every other request may be answered in any way its type allows: the clock may show any time,
    identifiers may repeat, the executor may raise anything.

  The world keeps a `log` beside the store.  Nothing reads it; it is the history that statements
  about runs refer to: which operation was applied by whom to which store, what was read back from
  EC2, and with what command and on what store the private executor was called.
-/
import CloudOpsAgent.Lib.Prog
import CloudOpsAgent.Persistence.Evolution

namespace CloudOpsAgent

open ClientProg

/-! ## What crosses the boundary -/

/-- What the coordinators read of a normalized EC2 inspection. -/
structure InstanceInspection where
  state : Ec2InstanceState
  evidenceDigest : Sha256Digest
  deriving DecidableEq

/-- The typed command of the private sandbox remediation executor. -/
structure StopExecutionCommand where
  proposalId : UUID
  runId : UUID
  traceId : UUID
  correlationId : UUID
  action : Capability
  target : ActionTarget
  expectedPrecondition : ExpectedPrecondition
  evidenceHash : Sha256Digest
  approvalRequestHash : Sha256Digest
  approvalActorSessionId : String
  approvalDecisionNonceHash : Sha256Digest
  idempotencyKey : String
  issuedAt : Time
  action_eq : action = .stopSandboxInstance
  evidence_eq : evidenceHash = expectedPrecondition.evidenceHash

/-- What the record holds; its proofs are determined by that. -/
abbrev StopExecutionCommand.data (r : StopExecutionCommand) :=
  ((r.proposalId, r.runId, r.traceId, r.correlationId),
   (r.action, r.target, r.expectedPrecondition, r.evidenceHash),
   (r.approvalRequestHash, r.approvalActorSessionId, r.approvalDecisionNonceHash, r.idempotencyKey),
   r.issuedAt)

theorem StopExecutionCommand.data_inj {a b : StopExecutionCommand} :
    a.data = b.data ↔ a = b := by
  cases a
  cases b
  simp only [data, Prod.mk.injEq, mk.injEq, and_assoc]

set_option synthInstance.maxSize 512 in
instance : DecidableEq StopExecutionCommand := fun a b =>
  decidable_of_iff (a.data = b.data) StopExecutionCommand.data_inj

/-- How the control flows call the Strands agent. -/
inductive AgentInput where
  /-- Ask for the approval interrupt of a proposal, within the remaining budget. -/
  | requestStop (proposalId : UUID) (turns outputTokens totalTokens : Nat)
  | interruptResponse (interruptId : String) (approved : Bool)

/-- What the flows read of an agent result, with the gate's `last_failure` at that point. -/
structure AgentReply where
  stopReason : String
  interrupts : List String := []
  lastFailure : Option FailureDetail := none

/-- A request of a control flow to the world. -/
inductive Req [Sha256] where
  | store (op : Op)
  | clock
  | freshId
  | nonce
  | sleep (seconds : Nat)
  | inspect (instanceId : String) (identity : InvestigationIdentity)
  | stop (command : StopExecutionCommand)
  | agent (input : AgentInput)
  | mockGetReceipt (idempotencyKey : String)
  | mockExecute (proposal : RemediationProposal) (evidence : ResourceEvidence)
      (approval : LocalApprovalDecisionRecord) (intent : LocalExecutionIntent)
  | mockVerify (receipt : LocalExecutionReceipt)

def Req.Ans [Sha256] : Req → Type
  | store op => Except PyExc op.Result
  | clock => Time
  | freshId => UUID
  | nonce => String
  | sleep _ => Unit
  | inspect _ _ => ControlResult InstanceInspection
  | stop _ => Except PyExc ExecutionAcknowledgement
  | agent _ => Except PyExc AgentReply
  | mockGetReceipt _ => Except PyExc (Option LocalExecutionReceipt)
  | mockExecute .. => Except PyExc LocalExecutionReceipt
  | mockVerify _ => Except PyExc LocalVerificationEvidence

/-! ## Flows -/

/-- A control flow: a program over the requests above that may raise a Python exception. -/
abbrev Flow [Sha256] (α : Type) := Prog Req Req.Ans PyExc α

namespace Flow

variable [Sha256] {α β : Type}

/-- A repository operation; its exception is raised. -/
def op (o : Op) : Flow o.Result := .call (.store o) .ofExcept

def clock : Flow Time := .call .clock .ret
def freshId : Flow UUID := .call .freshId .ret
def nonce : Flow String := .call .nonce .ret
def sleep (seconds : Nat) : Flow Unit := .call (.sleep seconds) .ret
def inspect (instanceId : String) (identity : InvestigationIdentity) :
    Flow (ControlResult InstanceInspection) := .call (.inspect instanceId identity) .ret
def stop (command : StopExecutionCommand) : Flow ExecutionAcknowledgement :=
  .call (.stop command) .ofExcept
def agent (input : AgentInput) : Flow AgentReply := .call (.agent input) .ofExcept
def mockGetReceipt (key : String) : Flow (Option LocalExecutionReceipt) :=
  .call (.mockGetReceipt key) .ofExcept
def mockExecute (proposal : RemediationProposal) (evidence : ResourceEvidence)
    (approval : LocalApprovalDecisionRecord) (intent : LocalExecutionIntent) :
    Flow LocalExecutionReceipt := .call (.mockExecute proposal evidence approval intent) .ofExcept
def mockVerify (receipt : LocalExecutionReceipt) : Flow LocalVerificationEvidence :=
  .call (.mockVerify receipt) .ofExcept

/-- `try: body` `except …: handler` `else: rest`.  A handler that answers `none` does not catch. -/
def tryExcept (body : Flow α) (handler : PyExc → Option (Flow β)) (rest : α → Flow β) : Flow β :=
  body.attempt >>= fun
    | .ok a => rest a
    | .error e => (handler e).getD (.raise e)

/-- `except` with one clause. -/
def catching (caught : PyExc → Bool) (handler : Flow β) : PyExc → Option (Flow β) :=
  fun e => if caught e then some handler else none

end Flow

/-! ## The world -/

/-- One entry of the history of a world with clients `ι`. -/
inductive Event [Sha256] (ι : Type) where
  /-- An operation took effect. -/
  | stored (who : ι) (op : Op) (before after : Store)
  | inspected (who : ι) (instanceId : String) (identity : InvestigationIdentity)
      (answer : ControlResult InstanceInspection)
  /-- The private executor was called while the repository held `store`. -/
  | executed (who : ι) (command : StopExecutionCommand) (store : Store)

structure World [Sha256] (ι : Type) where
  store : Store
  log : List (Event ι)

namespace World

variable [Sha256] {ι : Type}

/-- Nothing stored, nothing done. -/
def initial : World ι := ⟨{}, []⟩

/-- The world after `who`'s operation took effect. -/
def applied (w : World ι) (who : ι) (op : Op) (s : Store) : World ι :=
  ⟨s, w.log ++ [.stored who op w.store s]⟩

def logged (w : World ι) (e : Event ι) : World ι := ⟨w.store, w.log ++ [e]⟩

@[simp] theorem applied_store (w : World ι) (i : ι) (op : Op) (s : Store) :
    (w.applied i op s).store = s := rfl
@[simp] theorem applied_log (w : World ι) (i : ι) (op : Op) (s : Store) :
    (w.applied i op s).log = w.log ++ [.stored i op w.store s] := rfl
@[simp] theorem logged_store (w : World ι) (e : Event ι) : (w.logged e).store = w.store := rfl
@[simp] theorem logged_log (w : World ι) (e : Event ι) : (w.logged e).log = w.log ++ [e] := rfl

end World

variable [Sha256] {ι : Type}

/-- A repository operation is atomic, and may report a storage failure whether or not it took
    effect. -/
inductive StoreAnswer (who : ι) (w : World ι) (op : Op) : Except PyExc op.Result → World ι → Prop
  | done {v : op.Result} {s : Store} (h : op.run w.store = .ok (v, s)) :
    StoreAnswer who w op (.ok v) (w.applied who op s)
  | refused {e : PyExc} (h : op.run w.store = .error e) : StoreAnswer who w op (.error e) w
  | failedBefore {e : PyExc} (he : e.isStorage) : StoreAnswer who w op (.error e) w
  | failedAfter {v : op.Result} {s : Store} {e : PyExc} (h : op.run w.store = .ok (v, s))
    (he : e.isStorage) : StoreAnswer who w op (.error e) (w.applied who op s)

/-- How the world may answer a request, and what it is afterwards. -/
def answers (who : ι) (w : World ι) : (r : Req) → r.Ans → World ι → Prop
  | .store op, x, w' => StoreAnswer who w op x w'
  | .inspect instanceId identity, x, w' =>
    w' = w.logged (.inspected who instanceId identity x)
  | .stop command, _, w' => w' = w.logged (.executed who command w.store)
  | .clock, _, w' | .freshId, _, w' | .nonce, _, w' | .sleep _, _, w' | .agent _, _, w'
  | .mockGetReceipt _, _, w' | .mockExecute .., _, w' | .mockVerify _, _, w' => w' = w

/-- A repository operation leaves the world alone or has taken effect. -/
theorem answers_store {who : ι} {w w' : World ι} {op : Op} {x : Except PyExc op.Result}
    (h : answers who w (.store op) x w') :
    w' = w ∨ ∃ s, Write w.store op s ∧ w' = w.applied who op s := by
  cases h with
  | done h => exact .inr ⟨_, Op.write h, rfl⟩
  | refused h => exact .inl rfl
  | failedBefore he => exact .inl rfl
  | failedAfter h he => exact .inr ⟨_, Op.write h, rfl⟩

/-- Whatever is answered, the store moves along its order. -/
theorem answers_evolves {who : ι} {w w' : World ι} {r : Req} {x : r.Ans}
    (h : answers who w r x w') : w.store.Evolves w'.store := by
  cases r with
  | store op =>
    obtain rfl | ⟨s, hs, rfl⟩ := answers_store h
    · exact .refl _
    · exact hs.evolves
  | _ => cases h; exact .refl _

/-- The history only grows. -/
theorem answers_log {who : ι} {w w' : World ι} {r : Req} {x : r.Ans}
    (h : answers who w r x w') : w.log <+: w'.log := by
  cases r with
  | store op =>
    obtain rfl | ⟨s, -, rfl⟩ := answers_store h
    · exact List.prefix_refl _
    · exact List.prefix_append _ _
  | inspect instanceId identity => cases h; exact List.prefix_append _ _
  | stop command => cases h; exact List.prefix_append _ _
  | _ => cases h; exact List.prefix_refl _

/-- The store and the history only grow. -/
def Grows (w w' : World ι) : Prop := w.store.Evolves w'.store ∧ w.log <+: w'.log

theorem Grows.refl (w : World ι) : Grows w w := ⟨.refl _, List.prefix_refl _⟩

theorem Grows.trans {w w' w'' : World ι} (h : Grows w w') (h' : Grows w' w'') : Grows w w'' :=
  ⟨h.1.trans h'.1, h.2.trans h'.2⟩

theorem Grows.of_answers {i : ι} {w w' : World ι} {r : Req} {x : r.Ans}
    (h : answers i w r x w') : Grows w w' := ⟨answers_evolves h, answers_log h⟩

end CloudOpsAgent
