/-
  The world of the local workflow: durable truth, and the mock inventory beside it.

  The two are separate stores.  Each repository operation and each inventory operation is atomic by
  itself and nothing is atomic across both, so a crash or a failure can fall between a mutation and
  its record in the checkpoint.  An inventory operation, too, may fail before or after it took
  effect; its clock is the executor's own, and may show any time.

  The world keeps the history of its mutations: what was executed by whom, and what the repository
  held at that moment.
-/
import CloudOpsAgent.Cloudops.LocalMock
import CloudOpsAgent.Flow.System

namespace CloudOpsAgent

open ClientProg ClientProg.Prog

variable [Sha256] {ι α β : Type}

/-! ## The world -/

/-- One change of the inventory. -/
structure Mutation [Sha256] (ι : Type) where
  who : ι
  proposal : RemediationProposal
  evidence : ResourceEvidence
  approval : LocalApprovalDecisionRecord
  intent : LocalExecutionIntent
  receipt : LocalExecutionReceipt
  /-- What the repository held. -/
  store : Store

structure LocalWorld [Sha256] (ι : Type) where
  world : World ι
  inventory : Inventory
  mutations : List (Mutation ι) := []

namespace LocalWorld

/-- The world after `who`'s operation took effect. -/
def applied (w : LocalWorld ι) (who : ι) (op : Op) (s : Store) : LocalWorld ι :=
  { w with world := w.world.applied who op s }

/-- The world after an execution that returned a receipt, applied or replayed. -/
def executed (w : LocalWorld ι) (m : Mutation ι) (applied : Bool) (s : Inventory) : LocalWorld ι :=
  { w with inventory := s, mutations := if applied then w.mutations ++ [m] else w.mutations }

@[simp] theorem applied_store (w : LocalWorld ι) (i : ι) (op : Op) (s : Store) :
    (w.applied i op s).world.store = s := rfl
@[simp] theorem applied_inventory (w : LocalWorld ι) (i : ι) (op : Op) (s : Store) :
    (w.applied i op s).inventory = w.inventory := rfl
@[simp] theorem applied_mutations (w : LocalWorld ι) (i : ι) (op : Op) (s : Store) :
    (w.applied i op s).mutations = w.mutations := rfl
@[simp] theorem executed_world (w : LocalWorld ι) (m : Mutation ι) (b : Bool) (s : Inventory) :
    (w.executed m b s).world = w.world := rfl
@[simp] theorem executed_inventory (w : LocalWorld ι) (m : Mutation ι) (b : Bool)
    (s : Inventory) : (w.executed m b s).inventory = s := rfl

end LocalWorld

/-- An execution at the mock boundary: refused for a reason of its own, or unavailable before or
    after it took effect. -/
inductive ExecuteAnswer (parse : Json → Option SecurityGroupRule) (who : ι) (w : LocalWorld ι)
    (p : RemediationProposal) (e : ResourceEvidence) (a : LocalApprovalDecisionRecord)
    (n : LocalExecutionIntent) : Except PyExc LocalExecutionReceipt → LocalWorld ι → Prop
  | done {t : Time} {r : LocalExecutionReceipt} {applied : Bool} {s : Inventory}
    (h : w.inventory.execute parse p e a n t = .ok (r, applied, s)) :
    ExecuteAnswer parse who w p e a n (.ok r)
      (w.executed ⟨who, p, e, a, n, r, w.world.store⟩ applied s)
  | refused {t : Time} {x : PyExc} (h : w.inventory.execute parse p e a n t = .error x) :
    ExecuteAnswer parse who w p e a n (.error x) w
  | failedBefore : ExecuteAnswer parse who w p e a n (.error .cloudAdapterUnavailable) w
  | failedAfter {t : Time} {r : LocalExecutionReceipt} {applied : Bool} {s : Inventory}
    (h : w.inventory.execute parse p e a n t = .ok (r, applied, s)) :
    ExecuteAnswer parse who w p e a n (.error .cloudAdapterUnavailable)
      (w.executed ⟨who, p, e, a, n, r, w.world.store⟩ applied s)

/-- How the world of the local workflow may answer a request, and what it is afterwards. -/
def localAnswers (parse : Json → Option SecurityGroupRule) (who : ι) (w : LocalWorld ι) (r : Req)
    (x : r.Ans) (w' : LocalWorld ι) : Prop :=
  match r, x with
  | .mockGetReceipt key, x =>
    w' = w ∧ (x = .ok (w.inventory.getReceipt key) ∨ x = .error .cloudAdapterUnavailable)
  | .mockExecute p e a n, x => ExecuteAnswer parse who w p e a n x w'
  | .mockVerify r, x =>
    w' = w ∧ ((∃ t, x = w.inventory.verify r t) ∨ x = .error .cloudAdapterUnavailable)
  | r, x => ∃ v, answers who w.world r x v ∧ w' = { w with world := v }

/-! ## Calls -/

/-- One invocation of the local workflow. -/
inductive LocalCall where
  | request (cfg : LocalHitlConfig) (runId : UUID) (principal : LocalOperatorPrincipal)
  | decide (cfg : LocalHitlConfig) (d : LocalDecisionRequest) (principal : LocalOperatorPrincipal)
  | resume (cfg : LocalHitlConfig) (runId : UUID) (principal : LocalOperatorPrincipal)

/-- The program of an invocation. -/
def LocalCall.flow : LocalCall → Flow Reply
  | .request cfg runId principal => (Call.requestLocal cfg runId principal).flow
  | .decide cfg d principal => (Call.decideLocal cfg d principal).flow
  | .resume cfg runId principal => (Call.resumeLocal cfg runId principal).flow

/-- Every call about to start, on given durable truth and a given inventory. -/
def startLocal (calls : ι → LocalCall) (w : World ι) (s : Inventory) :
    Config ι (LocalWorld ι) Req Req.Ans PyExc Reply := ⟨⟨w, s, []⟩, fun i => (calls i).flow⟩

/-- Some interleaving of the calls leads to `c`. -/
def LocalReachable [DecidableEq ι] (parse : Json → Option SecurityGroupRule)
    (calls : ι → LocalCall) (w : World ι) (s : Inventory)
    (c : Config ι (LocalWorld ι) Req Req.Ans PyExc Reply) : Prop :=
  Steps (localAnswers parse) (startLocal calls w s) c

/-! ## Rules -/

section Rules

variable {parse : Json → Option SecurityGroupRule} {D : Discipline (localAnswers (ι := ι) parse)}
  {i : ι} {w : LocalWorld ι} {Q : Except PyExc β → LocalWorld ι → Prop}

/-- A request that leaves the world alone. -/
theorem local_silent {r : Req} (ha : ∀ w', D.allowed i w' r)
    (hs : ∀ w x w', localAnswers parse i w r x w' → w' = w) {k : r.Ans → Flow β}
    (h : ∀ x, Safe D i (k x) Q w) : Safe D i (.call r k) Q w := by
  intro w' hw _
  refine ⟨ha w', fun x w'' hx _ => ?_⟩
  rw [hs w' x w'' hx]
  exact (h x).rely hw

theorem local_clock_bind {f : Time → Flow β} (ha : ∀ w', D.allowed i w' .clock)
    (h : ∀ t, Safe D i (f t) Q w) : Safe D i (Flow.clock >>= f) Q w :=
  local_silent (r := .clock) ha (fun _ _ _ ⟨_, hv, hw⟩ => by subst hw; rw [hv]) h

theorem local_freshId_bind {f : UUID → Flow β} (ha : ∀ w', D.allowed i w' .freshId)
    (h : ∀ u, Safe D i (f u) Q w) : Safe D i (Flow.freshId >>= f) Q w :=
  local_silent (r := .freshId) ha (fun _ _ _ ⟨_, hv, hw⟩ => by subst hw; rw [hv]) h

theorem local_nonce_bind {f : String → Flow β} (ha : ∀ w', D.allowed i w' .nonce)
    (h : ∀ s, Safe D i (f s) Q w) : Safe D i (Flow.nonce >>= f) Q w :=
  local_silent (r := .nonce) ha (fun _ _ _ ⟨_, hv, hw⟩ => by subst hw; rw [hv]) h

/-- A repository operation and what follows when it succeeds. -/
theorem local_op_bind {o : Op} {f : o.Result → Flow β}
    (ha : ∀ w', D.evolve w w' → D.inv w' → D.allowed i w' (.store o))
    (hok : ∀ v s w', D.evolve w w' → D.inv w' → o.run w'.world.store = .ok (v, s) →
      D.evolve w (w'.applied i o s) → D.inv (w'.applied i o s) →
      Safe D i (f v) Q (w'.applied i o s))
    (herr : ∀ x w', D.evolve w w' → D.inv w' → Q (.error x) w') :
    Safe D i (Flow.op o >>= f) Q w := by
  refine Safe.call (fun w' hw hI _ => ha w' hw hI) fun x w' w'' hw hI hw' hI' hx => ?_
  have raised (e : PyExc) : Safe D i (.raise e : Flow β) Q w'' := fun v hv hv' =>
    herr e v (D.evolve_trans hw (D.evolve_trans hw' (D.evolve_of_rely hv))) hv'
  obtain ⟨v, hx, rfl⟩ := hx
  cases hx with
  | done h => exact hok _ _ w' hw hI h (D.evolve_trans hw hw') hI'
  | refused h => exact raised _
  | failedBefore he => exact raised _
  | failedAfter h he => exact raised _

theorem local_op {o : Op} {Q : Except PyExc o.Result → LocalWorld ι → Prop}
    (ha : ∀ w', D.evolve w w' → D.inv w' → D.allowed i w' (.store o))
    (hok : ∀ v s w' w'', D.evolve w w'' → D.inv w' → o.run w'.world.store = .ok (v, s) →
      D.evolve (w'.applied i o s) w'' → D.inv w'' → Q (.ok v) w'')
    (herr : ∀ x w', D.evolve w w' → D.inv w' → Q (.error x) w') :
    Safe D i (Flow.op o) Q w := by
  rw [← bind_ret (Flow.op o)]
  refine local_op_bind ha (fun v s w' hw hI hv hw' _ => ?_) herr
  exact safe_ret fun w'' hw'' hI'' => hok v s w' w'' (D.evolve_trans hw' hw'') hI hv hw'' hI''

/-- An operation that reads `g` of the store, and what follows in a store where that was read. -/
theorem local_read_bind {o : Op} (g : Store → o.Result) (hg : ∀ s, o.run s = .ok (g s, s))
    (ha : ∀ w', D.allowed i w' (.store o)) {f : o.Result → Flow β}
    (h : ∀ w', D.evolve w w' → D.inv w' → Safe D i (f (g w'.world.store)) Q w')
    (herr : ∀ x w', D.evolve w w' → D.inv w' → Q (.error x) w') :
    Safe D i (Flow.op o >>= f) Q w := by
  refine local_op_bind (fun w' _ _ => ha w') (fun v s w' _ _ hv hw hI => ?_) herr
  rw [hg] at hv
  cases hv
  exact h _ hw hI

/-- A look at the receipts. -/
theorem local_getReceipt_bind {key : String} {f : Option LocalExecutionReceipt → Flow β}
    (ha : ∀ w', D.allowed i w' (.mockGetReceipt key))
    (h : ∀ w', D.evolve w w' → D.inv w' → Safe D i (f (w'.inventory.receipts.get key)) Q w')
    (herr : ∀ x w', D.evolve w w' → D.inv w' → Q (.error x) w') :
    Safe D i (Flow.mockGetReceipt key >>= f) Q w := by
  refine Safe.call (fun w' _ _ _ => ha w') fun x w' w'' hw hI hw' hI' hx => ?_
  obtain ⟨rfl, rfl | rfl⟩ := hx
  · exact h w'' hw hI
  · exact fun v hv hv' => herr _ v (D.evolve_trans hw (D.evolve_of_rely hv)) hv'

/-- An execution: what it returns is the receipt of its key, from then on. -/
theorem local_execute {p : RemediationProposal} {e : ResourceEvidence}
    {a : LocalApprovalDecisionRecord} {n : LocalExecutionIntent}
    {Q : Except PyExc LocalExecutionReceipt → LocalWorld ι → Prop}
    (ha : ∀ w', D.evolve w w' → D.inv w' → D.allowed i w' (.mockExecute p e a n))
    (hok : ∀ r w' w'', D.evolve w w' → D.evolve w' w'' → D.inv w'' →
      w'.inventory.receipts.get r.idempotencyKey = some r → Q (.ok r) w'')
    (herr : ∀ x w', D.evolve w w' → D.inv w' → Q (.error x) w') :
    Safe D i (Flow.mockExecute p e a n) Q w := by
  refine Safe.call (fun w' hw hI _ => ha w' hw hI) fun x w' w'' hw hI hw' hI' hx => ?_
  have raised (y : PyExc) : Safe D i (.raise y : Flow LocalExecutionReceipt) Q w'' := fun v hv hv' =>
    herr y v (D.evolve_trans hw (D.evolve_trans hw' (D.evolve_of_rely hv))) hv'
  change ExecuteAnswer parse i w' p e a n x w'' at hx
  cases hx with
  | done h =>
    have hget := (Inventory.execute_receipts h).2
    exact fun v hv hv' => hok _ _ v (D.evolve_trans hw hw') (D.evolve_of_rely hv) hv' hget
  | refused h => exact raised _
  | failedBefore => exact raised _
  | failedAfter h => exact raised _

end Rules

end CloudOpsAgent
