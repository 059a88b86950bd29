/-
  A call of the local workflow that runs alone.

  `LocalEnvironment` answers what `Environment` does not: the nonces, and the mock boundary, whose
  operations do what they do at the time of the executor's own clock.  There is one rule for each
  request, and a run alone is an interleaving in which nobody else is scheduled.
-/
import CloudOpsAgent.Flow.Local

namespace CloudOpsAgent

open ClientProg ClientProg.Prog

variable [Sha256] {ι α β : Type}

/-- Everything a call of the local workflow that runs alone is answered. -/
structure LocalEnvironment extends Environment where
  parse : Json → Option SecurityGroupRule
  executorNow : Nat → Time

/-- The world of a call that runs alone, and the number of requests it has made. -/
structure LocalSolo [Sha256] (ι : Type) where
  world : LocalWorld ι
  tick : Nat := 0

namespace LocalSolo

/-- One request later. -/
def next (st : LocalSolo ι) : LocalSolo ι := ⟨st.world, st.tick + 1⟩

/-- One repository operation later. -/
def applied (st : LocalSolo ι) (who : ι) (op : Op) (s : Store) : LocalSolo ι :=
  ⟨st.world.applied who op s, st.tick + 1⟩

/-- What durable truth is. -/
abbrev store (st : LocalSolo ι) : Store := st.world.world.store

@[simp] theorem next_world (st : LocalSolo ι) : st.next.world = st.world := rfl
@[simp] theorem next_tick (st : LocalSolo ι) : st.next.tick = st.tick + 1 := rfl
@[simp] theorem applied_world (st : LocalSolo ι) (who : ι) (op : Op) (s : Store) :
    (st.applied who op s).world = st.world.applied who op s := rfl
@[simp] theorem applied_tick (st : LocalSolo ι) (who : ι) (op : Op) (s : Store) :
    (st.applied who op s).tick = st.tick + 1 := rfl

end LocalSolo

namespace LocalEnvironment

variable (e : LocalEnvironment) (who : ι)

/-- The answer of the mock executor. -/
def execute (st : LocalSolo ι) (p : RemediationProposal) (ev : ResourceEvidence)
    (a : LocalApprovalDecisionRecord) (n : LocalExecutionIntent) :
    Except PyExc LocalExecutionReceipt × LocalSolo ι :=
  match st.world.inventory.execute e.parse p ev a n (e.executorNow st.tick) with
  | .ok (r, applied, s) =>
    (.ok r, ⟨st.world.executed ⟨who, p, ev, a, n, r, st.store⟩ applied s, st.tick + 1⟩)
  | .error x => (.error x, st.next)

theorem executeAnswer_execute (st : LocalSolo ι) (p : RemediationProposal) (ev : ResourceEvidence)
    (a : LocalApprovalDecisionRecord) (n : LocalExecutionIntent) :
    ExecuteAnswer e.parse who st.world p ev a n (e.execute who st p ev a n).1
      (e.execute who st p ev a n).2.world := by
  unfold execute
  split
  · rename_i h
    exact .done h
  · rename_i h
    exact .refused h

/-- What `who` is answered, and the world afterwards. -/
def respond (st : LocalSolo ι) (r : Req) : r.Ans × LocalSolo ι :=
  match r with
  | .nonce => (e.nonces st.tick, st.next)
  | .mockGetReceipt key => (.ok (st.world.inventory.getReceipt key), st.next)
  | .mockExecute p ev a n => e.execute who st p ev a n
  | .mockVerify r => (st.world.inventory.verify r (e.executorNow st.tick), st.next)
  | r =>
    let answer := e.toEnvironment.respond who ⟨st.world.world, st.tick⟩ r
    (answer.1, ⟨{ st.world with world := answer.2.world }, answer.2.tick⟩)

theorem localAnswers_respond (st : LocalSolo ι) (r : Req) :
    localAnswers e.parse who st.world r (e.respond who st r).1 (e.respond who st r).2.world := by
  cases r with
  | nonce => exact ⟨_, rfl, rfl⟩
  | mockGetReceipt key => exact ⟨rfl, .inl rfl⟩
  | mockVerify r => exact ⟨rfl, .inl ⟨_, rfl⟩⟩
  | mockExecute p ev a n => exact e.executeAnswer_execute who st p ev a n
  | _ => exact ⟨_, e.toEnvironment.answers_respond who ⟨st.world.world, st.tick⟩ _, rfl⟩

/-- The run of `p` from `st` ends in `Q`. -/
abbrev Wp (p : Flow α) (Q : Except PyExc α → LocalSolo ι → Prop) (st : LocalSolo ι) : Prop :=
  Ends (e.respond who) p Q st

variable {e who} {Q : Except PyExc β → LocalSolo ι → Prop} {st : LocalSolo ι}

theorem wp_ret {b : β} (h : Q (.ok b) st) : e.Wp who (.ret b) Q st := h

theorem wp_clock_bind {f : Time → Flow β} (h : e.Wp who (f (e.now st.tick)) Q st.next) :
    e.Wp who (Flow.clock >>= f) Q st := h

theorem wp_freshId_bind {f : UUID → Flow β} (h : e.Wp who (f (e.ids st.tick)) Q st.next) :
    e.Wp who (Flow.freshId >>= f) Q st := h

theorem wp_nonce_bind {f : String → Flow β} (h : e.Wp who (f (e.nonces st.tick)) Q st.next) :
    e.Wp who (Flow.nonce >>= f) Q st := h

theorem respond_ok {o : Op} {v : o.Result} {s : Store} (ho : o.run st.store = .ok (v, s)) :
    e.respond who st (.store o) = (.ok v, st.applied who o s) := by
  have h : e.toEnvironment.respond who ⟨st.world.world, st.tick⟩ (.store o) =
      (.ok v, Solo.applied ⟨st.world.world, st.tick⟩ who o s) := Environment.respond_ok ho
  change ((e.toEnvironment.respond who ⟨st.world.world, st.tick⟩ (.store o)).1,
    (⟨{ st.world with world :=
        (e.toEnvironment.respond who ⟨st.world.world, st.tick⟩ (.store o)).2.world },
      (e.toEnvironment.respond who ⟨st.world.world, st.tick⟩ (.store o)).2.tick⟩ : LocalSolo ι)) = _
  rw [h]
  rfl

theorem respond_error {o : Op} {x : PyExc} (ho : o.run st.store = .error x) :
    e.respond who st (.store o) = (.error x, st.next) := by
  have h : e.toEnvironment.respond who ⟨st.world.world, st.tick⟩ (.store o) =
      (.error x, Solo.next ⟨st.world.world, st.tick⟩) := Environment.respond_error ho
  change ((e.toEnvironment.respond who ⟨st.world.world, st.tick⟩ (.store o)).1,
    (⟨{ st.world with world :=
        (e.toEnvironment.respond who ⟨st.world.world, st.tick⟩ (.store o)).2.world },
      (e.toEnvironment.respond who ⟨st.world.world, st.tick⟩ (.store o)).2.tick⟩ : LocalSolo ι)) = _
  rw [h]
  rfl

theorem wp_op_bind {o : Op} {f : o.Result → Flow β} {v : o.Result} {s : Store}
    (ho : o.run st.store = .ok (v, s)) (h : e.Wp who (f v) Q (st.applied who o s)) :
    e.Wp who (Flow.op o >>= f) Q st := by
  change e.Wp who (ofExcept (e.respond who st (.store o)).1 >>= f) Q (e.respond who st (.store o)).2
  rw [respond_ok ho]
  exact h

theorem wp_op {o : Op} {Q : Except PyExc o.Result → LocalSolo ι → Prop} {v : o.Result} {s : Store}
    (ho : o.run st.store = .ok (v, s)) (h : Q (.ok v) (st.applied who o s)) :
    e.Wp who (Flow.op o) Q st := by
  change e.Wp who (ofExcept (e.respond who st (.store o)).1) Q (e.respond who st (.store o)).2
  rw [respond_ok ho]
  exact h

theorem wp_op_refused {o : Op} {f : o.Result → Flow β} {x : PyExc}
    (ho : o.run st.store = .error x) (h : Q (.error x) st.next) :
    e.Wp who (Flow.op o >>= f) Q st := by
  change e.Wp who (ofExcept (e.respond who st (.store o)).1 >>= f) Q (e.respond who st (.store o)).2
  rw [respond_error ho]
  exact h

theorem wp_getReceipt_bind {key : String} {f : Option LocalExecutionReceipt → Flow β}
    (h : e.Wp who (f (st.world.inventory.receipts.get key)) Q st.next) :
    e.Wp who (Flow.mockGetReceipt key >>= f) Q st := h

theorem wp_execute {p : RemediationProposal} {ev : ResourceEvidence}
    {a : LocalApprovalDecisionRecord} {n : LocalExecutionIntent} {x : LocalExecutionReceipt}
    {applied : Bool} {inv : Inventory}
    {Q : Except PyExc LocalExecutionReceipt → LocalSolo ι → Prop}
    (hx : st.world.inventory.execute e.parse p ev a n (e.executorNow st.tick) = .ok (x, applied, inv))
    (h : Q (.ok x) ⟨st.world.executed ⟨who, p, ev, a, n, x, st.store⟩ applied inv, st.tick + 1⟩) :
    e.Wp who (Flow.mockExecute p ev a n) Q st := by
  have hanswer : e.execute who st p ev a n =
      (.ok x, ⟨st.world.executed ⟨who, p, ev, a, n, x, st.store⟩ applied inv, st.tick + 1⟩) := by
    unfold LocalEnvironment.execute
    rw [hx]
  change e.Wp who (ofExcept (e.execute who st p ev a n).1) Q (e.execute who st p ev a n).2
  rw [hanswer]
  exact h

theorem wp_verify_bind {r : LocalExecutionReceipt} {f : LocalVerificationEvidence → Flow β}
    {v : LocalVerificationEvidence}
    (hv : st.world.inventory.verify r (e.executorNow st.tick) = .ok v)
    (h : e.Wp who (f v) Q st.next) : e.Wp who (Flow.mockVerify r >>= f) Q st := by
  change e.Wp who (ofExcept (st.world.inventory.verify r (e.executorNow st.tick)) >>= f) Q st.next
  rw [hv]
  exact h

/-- A request takes one tick. -/
theorem respond_tick (st : LocalSolo ι) (r : Req) : (e.respond who st r).2.tick = st.tick + 1 := by
  cases r with
  | nonce => rfl
  | mockGetReceipt key => rfl
  | mockVerify r => rfl
  | mockExecute p ev a n =>
    change (e.execute who st p ev a n).2.tick = st.tick + 1
    unfold execute
    split <;> rfl
  | _ => exact e.toEnvironment.respond_tick ⟨st.world.world, st.tick⟩ _

/-- Time passes. -/
theorem wp_tick (p : Flow β) (st : LocalSolo ι) :
    e.Wp who p (fun _ st' => st.tick ≤ st'.tick) st := by
  induction p generalizing st with
  | ret a => exact le_rfl
  | raise x => exact le_rfl
  | call r k ih => exact (Nat.le_succ _).trans ((respond_tick st r).symm.le.trans (ih _ _))

/-- What a run ends in, it ends in later. -/
theorem wp_later {p : Flow β} (h : e.Wp who p Q st) :
    e.Wp who p (fun o st' => Q o st' ∧ st.tick ≤ st'.tick) st := ⟨h, wp_tick p st⟩

/-! ## Runs alone are interleavings -/

variable [DecidableEq ι]

theorem steps_solo (e : LocalEnvironment) (who : ι) (st : LocalSolo ι) (threads : ι → Flow α) :
    Steps (localAnswers e.parse) ⟨st.world, threads⟩
      ⟨((threads who).run (e.respond who) st).2.world,
        Function.update threads who (ofExcept ((threads who).run (e.respond who) st).1)⟩ :=
  steps_run (localAnswers e.parse) LocalSolo.world (e.localAnswers_respond who) (threads who) st
    threads rfl

end LocalEnvironment

/-! ## A sample run

  An elastic IP address nobody uses, the proposal to release it, and the operator's approval of the
  proposal.  Nothing here depends on the digest function. -/

namespace Sample

/-- The address, before anyone has released it. -/
def address : CloudResource :=
  .elasticIp { resourceId := "eipalloc-0123456789abcdef0", region := "eu-central-1",
               publicIp := "203.0.113.7", tags := ∅ }

def evidence : ResourceEvidence where
  runId := uid 1
  traceId := uid 2
  correlationId := uid 3
  resource := address
  findings := [.unattachedElasticIp]
  provenance :=
    { runId := uid 1, traceId := uid 2, correlationId := uid 3, adapter := "local-mock",
      resourceType := .elasticIp, resourceId := "eipalloc-0123456789abcdef0",
      observedFields := ["association_id"], observedAt := 0, fields_ok := by decide }
  observedAt := 0
  binding := by decide
  findings_ok := by decide

def remediation : RemediationProposal where
  proposalId := uid 4
  runId := uid 1
  correlationId := uid 3
  operationType := .releaseElasticIp
  targetResourceType := .elasticIp
  targetResourceId := "eipalloc-0123456789abcdef0"
  normalizedParameters := [("allocation_id", .str "eipalloc-0123456789abcdef0")]
  authorityClass := .planAndConfirm
  evidenceHash := evidence.evidenceHash
  evidenceFingerprint := evidence.stableFingerprint
  riskSummary := "Release of an unattached address"
  createdAt := 0
  expiresAt := 100
  status := .awaitingApproval
  policy_ok := by decide
  expires_later := by decide
  parameters_ok := by decide
  version_pos := Nat.one_pos

def operator : LocalOperatorPrincipal := ⟨"operator-session"⟩

/-- The request the operator was shown. -/
def request : LocalApprovalRequestRecord where
  requestId := uid 5
  proposalId := uid 4
  runId := uid 1
  correlationId := uid 3
  proposalHash := remediation.proposalHash
  evidenceHash := evidence.evidenceHash
  proposalVersion := 1
  operationType := .releaseElasticIp
  targetResourceType := .elasticIp
  targetResourceId := "eipalloc-0123456789abcdef0"
  actorSessionId := operator.actorSessionId
  decisionNonceHash := Sha256.hexdigest "0123456789abcdef"
  requestedAt := 1
  expiresAt := 100
  version_pos := Nat.one_pos
  expires_later := by decide

/-- The operator's yes. -/
def localDecision : LocalApprovalDecisionRecord := .create request .approved 2

/-- The checkpoint of the run, before anyone was asked. -/
def proposedCheckpoint : Checkpoint where
  runId := uid 1
  lastSafeState := .awaitingApproval
  resourceEvidence := some evidence
  remediationProposal := some remediation
  createdAt := 0
  valid := by
    simp [CheckpointFields.violation, CheckpointFields.proposalBound, remediation, evidence]

/-- The checkpoint with the approval. -/
def approvedCheckpoint : Checkpoint where
  runId := uid 1
  lastSafeState := .approved
  resourceEvidence := some evidence
  remediationProposal := some remediation
  localApprovalRequest := some request
  localApproval := some localDecision
  createdAt := 2
  valid := by
    simp [CheckpointFields.violation, CheckpointFields.proposalBound,
      CheckpointFields.requestBound, CheckpointFields.approvalBound, localDecision,
      LocalApprovalDecisionRecord.create, request, remediation, evidence]

/-- The run in a state, with its checkpoint. -/
def localStore (state : WorkflowState) (checkpoint : Checkpoint) : Store where
  runs := (∅ : Table _).put { run with state := state, version := 6, version_pos := sixth_version }
  checkpoints := (∅ : Table _).put checkpoint

def localInventory : Inventory := { resources := (∅ : Table _).put address }

/-- Identifiers from `k` on, at time `t`. -/
def localEnvironment (k : Nat) (t : Time) : LocalEnvironment where
  now _ := t
  now_mono _ _ _ := le_rfl
  ids n := uid (k + n)
  inspections _ := .succeeded ⟨.stopped, ⟨0⟩⟩
  acknowledge := acknowledges
  parse _ := none
  nonces _ := "0123456789abcdef"
  executorNow _ := t

def localConfig : LocalHitlConfig := { ttl_ok := by decide, sensitive := fun _ => false }

/-- Everybody resumes the approved run. -/
def localCalls (_ : Nat) : LocalCall := .resume localConfig (uid 1) operator

/-- The approved run, after client 1 has resumed it. -/
def resumed : Config Nat (LocalWorld Nat) Req Req.Ans PyExc Reply :=
  let c := startLocal localCalls ⟨localStore .approved approvedCheckpoint, []⟩ localInventory
  let x := (c.threads 1).run ((localEnvironment 10 10).respond 1) ⟨c.world, 0⟩
  ⟨x.2.world, Function.update c.threads 1 (ofExcept x.1)⟩

theorem reachable_resumed : LocalReachable (fun _ => none) localCalls
    ⟨localStore .approved approvedCheckpoint, []⟩ localInventory resumed :=
  (localEnvironment 10 10).steps_solo 1 ⟨_, 0⟩ _

end Sample

end CloudOpsAgent
