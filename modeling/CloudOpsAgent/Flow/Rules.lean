/-
  Proof rules for control flows.

  1. **What a flow can request** — three classes of requests, and `Issues` through the primitives
     and through `tryExcept`.  `Req.nonStop` is everything but a call of the private executor,
     `Req.quiet` leaves out checkpoints as well.  `Req.plain` leaves out every guarded operation,
     the ones whose effect other flows rely on being justified.

  2. **Safety of what a flow is made of**, in any world — `safe_try`: the body's post-condition must
     make the rest safe, and each handler must be safe in every state the body can raise in.

  3. **Safety of the primitives** — the clock, fresh identifiers and the like change nothing, so a
     flow is safe before them if it is safe after them, whatever they answer (`safe_silent`).  A
     repository operation is safe where it is allowed (`safe_op`, `safe_op_bind`): what follows may
     use that the operation succeeded on the store it found.

  4. **Histories** — a property of every entry of a log together with the entries before it.
-/
import CloudOpsAgent.Flow.World

namespace CloudOpsAgent

open ClientProg ClientProg.Prog

variable [Sha256] {ι α β : Type}

/-! ## Classes of requests -/

/-- Everything but a call of the private executor. -/
def Req.nonStop : Req → Prop
  | .stop _ => False
  | _ => True

/-- The operations that need a justification when the flows make them: what they write must not
    undo what other flows rely on. -/
def Op.guarded : Op → Bool
  | .createVerificationEvidence _ | .saveCheckpoint .. | .createProposal _ => true
  | .transitionRun _ next expected .. => next == .verifying && expected == .recoveryRequired
  | _ => false

/-- Neither the executor nor a guarded operation. -/
def Req.plain : Req → Prop
  | .stop _ => False
  | .store op => op.guarded = false
  | _ => True

theorem Req.nonStop_of_plain (r : Req) (h : r.plain) : r.nonStop := by
  cases r <;> trivial

/-- Neither the executor nor a checkpoint. -/
def Req.quiet : Req → Prop
  | .stop _ | .store (.saveCheckpoint ..) => False
  | _ => True

theorem Req.quiet_of_plain (r : Req) (h : r.plain) : r.quiet := by
  rcases r with op | _
  · cases op <;> trivial
  all_goals trivial

theorem Req.nonStop_of_quiet (r : Req) (h : r.quiet) : r.nonStop := by
  cases r <;> trivial

/-! ## What a flow can request -/

namespace Flow

variable {P : Req → Prop}

@[simp] theorem issues_op {o : Op} : (Flow.op o).Issues P ↔ P (.store o) :=
  ⟨fun h => h.1, fun h => ⟨h, fun x => issues_ofExcept x⟩⟩

@[simp] theorem issues_op_bind {o : Op} {f : o.Result → Flow β} :
    (Flow.op o >>= f).Issues P ↔ P (.store o) ∧ ∀ v, (f v).Issues P := by
  refine and_congr_right fun _ => ⟨fun h v => h (.ok v), fun h x => ?_⟩
  cases x with
  | ok v => exact h v
  | error e => trivial

@[simp] theorem issues_clock_bind {f : Time → Flow β} :
    (Flow.clock >>= f).Issues P ↔ P .clock ∧ ∀ t, (f t).Issues P := Iff.rfl

@[simp] theorem issues_freshId_bind {f : UUID → Flow β} :
    (Flow.freshId >>= f).Issues P ↔ P .freshId ∧ ∀ u, (f u).Issues P := Iff.rfl

@[simp] theorem issues_nonce_bind {f : String → Flow β} :
    (Flow.nonce >>= f).Issues P ↔ P .nonce ∧ ∀ s, (f s).Issues P := Iff.rfl

@[simp] theorem issues_sleep {n : Nat} : (Flow.sleep n).Issues P ↔ P (.sleep n) :=
  ⟨fun h => h.1, fun h => ⟨h, fun _ => trivial⟩⟩

@[simp] theorem issues_inspect_bind {id : String} {identity : InvestigationIdentity}
    {f : ControlResult InstanceInspection → Flow β} :
    (Flow.inspect id identity >>= f).Issues P ↔
      P (.inspect id identity) ∧ ∀ r, (f r).Issues P := Iff.rfl

@[simp] theorem issues_stop {command : StopExecutionCommand} :
    (Flow.stop command).Issues P ↔ P (.stop command) :=
  ⟨fun h => h.1, fun h => ⟨h, fun x => issues_ofExcept x⟩⟩

@[simp] theorem issues_agent {input : AgentInput} : (Flow.agent input).Issues P ↔ P (.agent input) :=
  ⟨fun h => h.1, fun h => ⟨h, fun x => issues_ofExcept x⟩⟩

@[simp] theorem issues_mockGetReceipt {key : String} :
    (Flow.mockGetReceipt key).Issues P ↔ P (.mockGetReceipt key) :=
  ⟨fun h => h.1, fun h => ⟨h, fun x => issues_ofExcept x⟩⟩

@[simp] theorem issues_mockExecute {p : RemediationProposal} {e : ResourceEvidence}
    {a : LocalApprovalDecisionRecord} {n : LocalExecutionIntent} :
    (Flow.mockExecute p e a n).Issues P ↔ P (.mockExecute p e a n) :=
  ⟨fun h => h.1, fun h => ⟨h, fun x => issues_ofExcept x⟩⟩

@[simp] theorem issues_mockVerify {r : LocalExecutionReceipt} :
    (Flow.mockVerify r).Issues P ↔ P (.mockVerify r) :=
  ⟨fun h => h.1, fun h => ⟨h, fun x => issues_ofExcept x⟩⟩

theorem issues_ofExcept_bind {x : Except PyExc α} {f : α → Flow β} (hf : ∀ a, (f a).Issues P) :
    (ofExcept x >>= f : Flow β).Issues P := (issues_ofExcept x).bind hf

theorem issues_tryExcept {body : Flow α} {handler : PyExc → Option (Flow β)} {rest : α → Flow β}
    (hbody : body.Issues P) (hhandler : ∀ e h, handler e = some h → h.Issues P)
    (hrest : ∀ a, (rest a).Issues P) : (Flow.tryExcept body handler rest).Issues P := by
  refine (issues_attempt.mpr hbody).bind fun x => ?_
  cases x with
  | ok a => exact hrest a
  | error e =>
    cases h : handler e with
    | none => simp [h]
    | some q => simpa [h] using hhandler e q h

/-- A `try` with one `except` clause. -/
theorem issues_catching {body : Flow α} {caught : PyExc → Bool} {handler : Flow β}
    {rest : α → Flow β} (hbody : body.Issues P) (hhandler : handler.Issues P)
    (hrest : ∀ a, (rest a).Issues P) :
    (Flow.tryExcept body (Flow.catching caught handler) rest).Issues P := by
  refine issues_tryExcept hbody (fun e h he => ?_) hrest
  unfold Flow.catching at he
  split at he
  · cases he; exact hhandler
  · cases he

theorem returns_tryExcept {S : β → Prop} {body : Flow α} {handler : PyExc → Option (Flow β)}
    {rest : α → Flow β} (hhandler : ∀ e h, handler e = some h → h.Returns S)
    (hrest : ∀ a, (rest a).Returns S) : (Flow.tryExcept body handler rest).Returns S := by
  refine returns_bind _ fun x => ?_
  cases x with
  | ok a => exact hrest a
  | error e =>
    cases h : handler e with
    | none => simp only [h, Option.getD_none]; trivial
    | some q => simpa only [h, Option.getD_some] using hhandler e q h

theorem returns_catching {S : β → Prop} {body : Flow α} {caught : PyExc → Bool} {handler : Flow β}
    {rest : α → Flow β} (hhandler : handler.Returns S) (hrest : ∀ a, (rest a).Returns S) :
    (Flow.tryExcept body (Flow.catching caught handler) rest).Returns S := by
  refine returns_tryExcept (fun e h he => ?_) hrest
  unfold Flow.catching at he
  split at he
  · cases he; exact hhandler
  · cases he

end Flow

/-! ## Safety of what a flow is made of

  These rules hold of any world the flow may run in. -/

section General

variable {σ : Type} {T : ι → σ → (r : Req) → r.Ans → σ → Prop} {D : Discipline T} {i : ι} {w : σ}
  {Q : Except PyExc β → σ → Prop}

theorem safe_ofExcept {x : Except PyExc β} (h : ∀ w', D.evolve w w' → D.inv w' → Q x w') :
    Safe D i (ofExcept x : Flow β) Q w := by
  cases x with
  | ok v => exact fun w' hw hI => h w' (D.evolve_of_rely hw) hI
  | error e => exact fun w' hw hI => h w' (D.evolve_of_rely hw) hI

theorem safe_ret {b : β} (h : ∀ w', D.evolve w w' → D.inv w' → Q (.ok b) w') :
    Safe D i (.ret b : Flow β) Q w := fun w' hw hI => h w' (D.evolve_of_rely hw) hI

theorem safe_raise {e : PyExc} (h : ∀ w', D.evolve w w' → D.inv w' → Q (.error e) w') :
    Safe D i (.raise e : Flow β) Q w := fun w' hw hI => h w' (D.evolve_of_rely hw) hI

/-- **The rule of `try`**: what the body raises goes to the handler, or on. -/
theorem safe_raising {body : Flow α} {handler : PyExc → Option (Flow β)} {rest : α → Flow β}
    {R : Except PyExc α → σ → Prop} (hbody : Safe D i body R w)
    (hrest : ∀ a w', D.evolve w w' → D.inv w' → R (.ok a) w' → Safe D i (rest a) Q w')
    (hraised : ∀ e w', D.evolve w w' → D.inv w' → R (.error e) w' →
      Safe D i ((handler e).getD (.raise e)) Q w') :
    Safe D i (Flow.tryExcept body handler rest) Q w := by
  refine .bind (R := fun o w' => ∃ x, o = .ok x ∧ R x w')
    (.attempt (hbody.mono fun o w' _ hR => ⟨o, rfl, hR⟩)) ?_ ?_
  · rintro x w' hw hI ⟨y, hy, hR⟩
    cases hy
    cases x with
    | ok a => exact hrest a w' hw hI hR
    | error e => exact hraised e w' hw hI hR
  · rintro e w' hw hI ⟨y, hy, -⟩
    cases hy

/-- The same, where nothing is known of what is not caught. -/
theorem safe_try {body : Flow α} {handler : PyExc → Option (Flow β)} {rest : α → Flow β}
    {R : Except PyExc α → σ → Prop} (hbody : Safe D i body R w)
    (hrest : ∀ a w', D.evolve w w' → D.inv w' → R (.ok a) w' → Safe D i (rest a) Q w')
    (hhandler : ∀ e h w', D.evolve w w' → D.inv w' → R (.error e) w' → handler e = some h →
      Safe D i h Q w')
    (huncaught : ∀ e w', D.evolve w w' → D.inv w' → Q (.error e) w') :
    Safe D i (Flow.tryExcept body handler rest) Q w := by
  refine safe_raising hbody hrest fun e w' hw hI hR => ?_
  cases he : handler e with
  | none => exact safe_raise fun w'' hw' hI' => huncaught e w'' (D.evolve_trans hw hw') hI'
  | some h => exact hhandler e h w' hw hI hR he

/-- The rule of `try` with one `except` clause, for a handler that is safe anywhere later. -/
theorem safe_catching {body : Flow α} {caught : PyExc → Bool} {handler : Flow β}
    {rest : α → Flow β} {R : Except PyExc α → σ → Prop} (hbody : Safe D i body R w)
    (hrest : ∀ a w', D.evolve w w' → D.inv w' → R (.ok a) w' → Safe D i (rest a) Q w')
    (hhandler : ∀ w', D.evolve w w' → D.inv w' → Safe D i handler Q w')
    (huncaught : ∀ e w', D.evolve w w' → D.inv w' → Q (.error e) w') :
    Safe D i (Flow.tryExcept body (Flow.catching caught handler) rest) Q w := by
  refine safe_try hbody hrest (fun e h w' hw hI _ he => ?_) huncaught
  unfold Flow.catching at he
  split at he
  · cases he; exact hhandler w' hw hI
  · cases he

end General

/-! ## Safety of the primitives -/

/-- A discipline that guards nothing but the private executor and the guarded operations. -/
class Permissive (D : Discipline (answers (ι := ι))) : Prop where
  allowed : ∀ i w r, Req.plain r → D.allowed i w r

variable {D : Discipline (answers (ι := ι))} [Permissive D] {i : ι} {w : World ι}

/-- A flow of plain requests is safe anywhere. -/
theorem safe_plain {p : Flow α} (hp : p.Issues Req.plain) : Safe D i p (fun _ _ => True) w :=
  .of_issues (fun w r hr => Permissive.allowed i w r hr) hp w

/-- A flow of plain requests, with what it can return. -/
theorem safe_plain_returns {R : α → Prop} {p : Flow α} (hp : p.Issues Req.plain)
    (hR : p.Returns R) {Q : Except PyExc α → World ι → Prop}
    (hQ : ∀ a w', R a → Q (.ok a) w') (herr : ∀ e w', Q (.error e) w') : Safe D i p Q w := by
  refine (Safe.returns hR (safe_plain hp)).mono fun o w' _ h => ?_
  cases o with
  | ok a => exact hQ a w' (h.1 a rfl)
  | error e => exact herr e w'

/-- A request that leaves the world alone may be answered in any way. -/
theorem safe_silent {r : Req} (hr : Req.plain r)
    (hs : ∀ w x w', answers i w r x w' → w' = w) {k : r.Ans → Flow β}
    {Q : Except PyExc β → World ι → Prop} (h : ∀ x, Safe D i (k x) Q w) :
    Safe D i (.call r k) Q w := by
  intro w' hw _
  refine ⟨Permissive.allowed i w' r hr, fun x w'' hx _ => ?_⟩
  rw [hs w' x w'' hx]
  exact (h x).rely hw

section Silent

variable {Q : Except PyExc β → World ι → Prop}

theorem safe_clock_bind {f : Time → Flow β} (h : ∀ t, Safe D i (f t) Q w) :
    Safe D i (Flow.clock >>= f) Q w := safe_silent (r := .clock) trivial (fun _ _ _ h => h) h

theorem safe_freshId_bind {f : UUID → Flow β} (h : ∀ u, Safe D i (f u) Q w) :
    Safe D i (Flow.freshId >>= f) Q w := safe_silent (r := .freshId) trivial (fun _ _ _ h => h) h

theorem safe_nonce_bind {f : String → Flow β} (h : ∀ s, Safe D i (f s) Q w) :
    Safe D i (Flow.nonce >>= f) Q w := safe_silent (r := .nonce) trivial (fun _ _ _ h => h) h

theorem safe_sleep {n : Nat} {Q : Except PyExc Unit → World ι → Prop}
    (h : ∀ w', D.evolve w w' → D.inv w' → Q (.ok ()) w') : Safe D i (Flow.sleep n) Q w :=
  safe_silent (r := .sleep n) trivial (fun _ _ _ h => h) fun _ => fun w' hw hI => h w' (D.evolve_of_rely hw) hI

/-- A silent request that may raise. -/
theorem safe_silent_raising {r : Req} {γ : Type} (hr : Req.plain r)
    (hs : ∀ w x w', answers i w r x w' → w' = w) {k : r.Ans → Except PyExc γ}
    {Q : Except PyExc γ → World ι → Prop}
    (h : ∀ o w', D.evolve w w' → D.inv w' → Q o w') :
    Safe D i (.call r fun x => ofExcept (k x)) Q w := by
  refine safe_silent hr hs fun x => ?_
  cases hx : k x with
  | ok v => exact fun w' hw hI => h _ w' (D.evolve_of_rely hw) hI
  | error e => exact fun w' hw hI => h _ w' (D.evolve_of_rely hw) hI

end Silent

omit [Permissive D] in
/-- A repository operation: allowed wherever it can be made, and what it returns or raises. -/
theorem safe_op {o : Op} {Q : Except PyExc o.Result → World ι → Prop}
    (ha : ∀ w', D.evolve w w' → D.inv w' → D.allowed i w' (.store o))
    (hok : ∀ v s w' w'', D.evolve w w' → D.inv w' → o.run w'.store = .ok (v, s) →
      D.evolve (w'.applied i o s) w'' → D.inv w'' → Q (.ok v) w'')
    (herr : ∀ e w', D.evolve w w' → D.inv w' → Q (.error e) w') : Safe D i (Flow.op o) Q w := by
  refine Safe.call (fun w' hw hI _ => ha w' hw hI) fun x w' w'' hw hI hw' hI' hx => ?_
  have raised (e : PyExc) : Safe D i (.raise e : Flow o.Result) Q w'' := fun v hv hv' =>
    herr e v (D.evolve_trans hw (D.evolve_trans hw' (D.evolve_of_rely hv))) hv'
  cases hx with
  | done h => exact fun v hv hv' => hok _ _ w' v hw hI h (D.evolve_of_rely hv) hv'
  | refused h => exact raised _
  | failedBefore he => exact raised _
  | failedAfter h he => exact raised _

omit [Permissive D] in
/-- A repository operation and what follows when it succeeds. -/
theorem safe_op_bind {o : Op} {f : o.Result → Flow β} {Q : Except PyExc β → World ι → Prop}
    (ha : ∀ w', D.evolve w w' → D.inv w' → D.allowed i w' (.store o))
    (hok : ∀ v s w', D.evolve w w' → D.inv w' → o.run w'.store = .ok (v, s) →
      D.evolve w (w'.applied i o s) → D.inv (w'.applied i o s) →
      Safe D i (f v) Q (w'.applied i o s))
    (herr : ∀ e w', D.evolve w w' → D.inv w' → Q (.error e) w') :
    Safe D i (Flow.op o >>= f) Q w := by
  refine Safe.call (fun w' hw hI _ => ha w' hw hI) fun x w' w'' hw hI hw' hI' hx => ?_
  have raised (e : PyExc) : Safe D i (.raise e : Flow β) Q w'' := fun v hv hv' =>
    herr e v (D.evolve_trans hw (D.evolve_trans hw' (D.evolve_of_rely hv))) hv'
  cases hx with
  | done h => exact hok _ _ w' hw hI h (D.evolve_trans hw hw') hI'
  | refused h => exact raised _
  | failedBefore he => exact raised _
  | failedAfter h he => exact raised _

/-- An operation that reads `g` of the store, and what follows in a store where that was read. -/
theorem safe_read_bind {o : Op} (g : Store → o.Result) (hg : ∀ s, o.run s = .ok (g s, s))
    (ho : Req.plain (.store o)) {f : o.Result → Flow β} {Q : Except PyExc β → World ι → Prop}
    (h : ∀ w', D.evolve w w' → D.inv w' → Safe D i (f (g w'.store)) Q w')
    (herr : ∀ e w', D.evolve w w' → D.inv w' → Q (.error e) w') :
    Safe D i (Flow.op o >>= f) Q w := by
  refine safe_op_bind (fun w' _ _ => Permissive.allowed i w' _ ho)
    (fun v s w' _ _ hv hw hI => ?_) herr
  rw [hg] at hv
  cases hv
  exact h _ hw hI

/-- An EC2 read-back and what follows: the answer is in the history. -/
theorem safe_inspect_bind {id : String} {identity : InvestigationIdentity}
    {f : ControlResult InstanceInspection → Flow β} {Q : Except PyExc β → World ι → Prop}
    (h : ∀ x w', D.evolve w w' → D.inv w' → .inspected i id identity x ∈ w'.log →
      Safe D i (f x) Q w') : Safe D i (Flow.inspect id identity >>= f) Q w := by
  refine Safe.call (fun w' _ _ _ => Permissive.allowed i w' _ trivial)
    fun x w' w'' hw hI hw' hI' hx => ?_
  refine h x w'' (D.evolve_trans hw hw') hI' ?_
  cases hx
  simp

/-! ## Histories -/

/-- Every entry of the log satisfies `H` together with the entries before it. -/
def History {κ : Type} (H : List κ → κ → Prop) (log : List κ) : Prop :=
  ∀ before e after, log = before ++ e :: after → H before e

omit [Sha256] in
theorem History.nil {κ : Type} {H : List κ → κ → Prop} : History H [] := by
  intro before e after h
  simp at h

omit [Sha256] in
/-- A log grows by an entry that satisfies `H` on what came before. -/
theorem History.snoc {κ : Type} {H : List κ → κ → Prop} {log : List κ} {e : κ}
    (h : History H log) (he : H log e) : History H (log ++ [e]) := by
  intro before x after heq
  obtain rfl | ⟨after, y, rfl⟩ := after.eq_nil_or_concat
  · obtain ⟨rfl, hx⟩ := List.append_inj' heq rfl
    cases hx
    exact he
  · rw [List.concat_eq_append, ← List.cons_append, ← List.append_assoc] at heq
    exact h before x after (List.append_inj' heq rfl).1

end CloudOpsAgent
