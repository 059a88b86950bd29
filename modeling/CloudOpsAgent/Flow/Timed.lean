/-
  A world in which nothing fails: repository operations do what they do, the audit trail accepts
  every event, the clock does not run backwards, and the private executor acknowledges.

  The clients are still interleaved at single requests, so an operation may be refused because of
  what another client did.  Time passes with any request; what a client reads of the clock lies
  between the time before and the time after.

  1. **Answers** — `Reliable`, and the rules of a client in such a world.

  2. **Runs alone** — a part of a program that a client runs alone in an `Environment` is an
     interleaving of this world, if no audit event is refused on the way (`Accepts`).  A program that
     raises what it is refused (`Strict`) and returns has met no refusal.
-/
import CloudOpsAgent.Flow.Solo

namespace CloudOpsAgent

open ClientProg ClientProg.Prog

variable [Sha256] {ι α β : Type}

/-! ## Answers -/

/-- A world, and the time in it. -/
structure Timed [Sha256] (ι : Type) where
  world : World ι
  time : Time

/-- The operations of the audit trail, which a world without failures does not refuse. -/
def Op.appendsAudit : Op → Bool
  | .appendAuditEvent _ => true
  | _ => false

/-- A repository operation without a storage failure. -/
inductive ReliableAnswer (who : ι) (w : World ι) (op : Op) : Except PyExc op.Result → World ι → Prop
  | done {v : op.Result} {s : Store} (h : op.run w.store = .ok (v, s)) :
    ReliableAnswer who w op (.ok v) (w.applied who op s)
  | refused {e : PyExc} (h : op.run w.store = .error e) (hop : op.appendsAudit = false) :
    ReliableAnswer who w op (.error e) w

/-- How a world without failures answers, when the executor acknowledges with `acknowledge`. -/
def Reliable (acknowledge : StopExecutionCommand → ExecutionAcknowledgement) (who : ι)
    (w : Timed ι) (r : Req) (x : r.Ans) (w' : Timed ι) : Prop :=
  w.time ≤ w'.time ∧
    match r, x with
    | .store op, x => ReliableAnswer who w.world op x w'.world
    | .clock, (t : Time) => w.time ≤ t ∧ t ≤ w'.time ∧ w'.world = w.world
    | .stop command, x => x = .ok (acknowledge command) ∧
        w'.world = w.world.logged (.executed who command w.world.store)
    | r, x => answers who w.world r x w'.world

variable {acknowledge : StopExecutionCommand → ExecutionAcknowledgement} {i : ι}

/-- A world without failures answers as a world may. -/
theorem Reliable.answers {w w' : Timed ι} {r : Req} {x : r.Ans}
    (h : Reliable acknowledge i w r x w') : answers i w.world r x w'.world := by
  obtain ⟨-, h⟩ := h
  cases r with
  | store op =>
    change ReliableAnswer i w.world op x w'.world at h
    change StoreAnswer i w.world op x w'.world
    generalize w'.world = v at h
    cases h with
    | done h => exact .done h
    | refused h hop => exact .refused h
  | clock => exact h.2.2
  | stop command => exact h.2
  | _ => exact h

/-! ## Rules

  `K` is what the client knows; interference must not harm it. -/

section Rules

variable {D : Discipline (Reliable (ι := ι) acknowledge)} {K : Timed ι → Prop}
  (hK : ∀ w w', D.rely i w w' → D.inv w' → K w → K w') {w : Timed ι}
  {Q : Except PyExc β → Timed ι → Prop}
include hK

theorem timed_clock_bind {f : Time → Flow β} (hw : K w) (ha : ∀ w', D.allowed i w' .clock)
    (h : ∀ t w' w'', D.inv w' → K w' → w'.time ≤ t → t ≤ w''.time → w''.world = w'.world →
      D.inv w'' → D.evolve w' w'' → Safe D i (f t) Q w'') : Safe D i (Flow.clock >>= f) Q w := by
  refine Safe.call_stable hK hw fun w' hI hKw => ⟨ha w', fun t w'' hx hI' hev => ?_⟩
  obtain ⟨-, h1, h2, h3⟩ := hx
  exact h t w' w'' hI hKw h1 h2 h3 hI' hev

theorem timed_op_bind {o : Op} {f : o.Result → Flow β} (hw : K w)
    (ha : ∀ w', D.inv w' → K w' → D.allowed i w' (.store o))
    (hok : ∀ v s w' w'', D.inv w' → K w' → o.run w'.world.store = .ok (v, s) →
      w''.world = w'.world.applied i o s → D.inv w'' → D.evolve w' w'' → Safe D i (f v) Q w'')
    (herr : ∀ x w' w'', D.inv w' → K w' → o.run w'.world.store = .error x →
      o.appendsAudit = false → w''.world = w'.world → D.inv w'' → D.evolve w' w'' →
      Safe D i (.raise x) Q w'') : Safe D i (Flow.op o >>= f) Q w := by
  refine Safe.call_stable hK hw fun w' hI hKw => ⟨ha w' hI hKw, fun x w'' hx hI' hev => ?_⟩
  obtain ⟨-, hx⟩ := hx
  generalize hv : w''.world = v at hx
  cases hx with
  | done h => exact hok _ _ w' w'' hI hKw h hv hI' hev
  | refused h hop => exact herr _ w' w'' hI hKw h hop hv hI' hev

theorem timed_op {o : Op} {Q : Except PyExc o.Result → Timed ι → Prop} (hw : K w)
    (ha : ∀ w', D.inv w' → K w' → D.allowed i w' (.store o))
    (hok : ∀ v s w' w'', D.inv w' → K w' → o.run w'.world.store = .ok (v, s) →
      w''.world = w'.world.applied i o s → D.inv w'' → D.evolve w' w'' → Safe D i (.ret v) Q w'')
    (herr : ∀ x w' w'', D.inv w' → K w' → o.run w'.world.store = .error x →
      o.appendsAudit = false → w''.world = w'.world → D.inv w'' → D.evolve w' w'' →
      Safe D i (.raise x) Q w'') : Safe D i (Flow.op o) Q w := by
  rw [← bind_ret (Flow.op o)]
  exact timed_op_bind hK hw ha hok herr

/-- A read, in a world that is the same afterwards but for its history. -/
theorem timed_read_bind {o : Op} (g : Store → o.Result) (hg : ∀ s, o.run s = .ok (g s, s))
    {f : o.Result → Flow β} (hw : K w) (ha : ∀ w', D.inv w' → K w' → D.allowed i w' (.store o))
    (h : ∀ w' w'', D.inv w' → K w' → w''.world = w'.world.applied i o w'.world.store →
      D.inv w'' → D.evolve w' w'' → Safe D i (f (g w'.world.store)) Q w'') :
    Safe D i (Flow.op o >>= f) Q w := by
  refine timed_op_bind hK hw ha (fun v s w' w'' hI hKw hv hw'' hI' hev => ?_)
    fun x w' w'' _ _ hx => ?_
  · rw [hg] at hv
    cases hv
    exact h w' w'' hI hKw hw'' hI' hev
  · rw [hg] at hx
    cases hx

end Rules

/-! ## Runs alone -/

/-- A request that appends an audit event is not refused. -/
def Req.Accepted (s : Store) : Req → Prop
  | .store op => op.appendsAudit = true → ∃ v s', op.run s = .ok (v, s')
  | _ => True

namespace Environment

variable (e : Environment) (who : ι)

/-- The world of a call that runs alone, with the time in it. -/
def timed (st : Solo ι) : Timed ι := ⟨st.world, e.now st.tick⟩

/-- No audit event of the run of a program is refused. -/
def Accepts : Flow α → Solo ι → Prop
  | .ret _, _ => True
  | .raise _, _ => True
  | .call r k, st =>
    r.Accepted st.world.store ∧ Accepts (k (e.respond who st r).1) (e.respond who st r).2

variable {e who} {st : Solo ι}

theorem reliable_respond (hack : ∀ command, e.acknowledge command = .ok (acknowledge command))
    {r : Req} (hr : r.Accepted st.world.store) :
    Reliable acknowledge who (e.timed st) r (e.respond who st r).1
      (e.timed (e.respond who st r).2) := by
  have htime : e.now st.tick ≤ e.now (st.tick + 1) := e.now_mono (Nat.le_succ _)
  cases r with
  | store op =>
    cases h : op.run st.world.store with
    | error x =>
      rw [respond_error h]
      refine ⟨htime, .refused h ?_⟩
      refine Bool.eq_false_iff.mpr fun hop => ?_
      obtain ⟨v, s', h'⟩ := hr hop
      cases h.symm.trans h'
    | ok vs =>
      rw [respond_ok h]
      exact ⟨htime, .done h⟩
  | clock => exact ⟨htime, le_rfl, htime, rfl⟩
  | stop command => exact ⟨htime, hack command, rfl⟩
  | _ => exact ⟨htime, rfl⟩

theorem accepts_attempt {p : Flow α} (hp : e.Accepts who p st) : e.Accepts who p.attempt st := by
  induction p generalizing st with
  | ret a => trivial
  | raise x => trivial
  | call r k ih => exact ⟨hp.1, ih _ hp.2⟩

/-- A part of a program that a client runs alone. -/
theorem steps_accepts [DecidableEq ι]
    (hack : ∀ command, e.acknowledge command = .ok (acknowledge command)) {f : α → Flow β}
    (p : Flow α) : ∀ (st : Solo ι) (threads : ι → Flow β), e.Accepts who p st →
      threads who = p >>= f → Steps (Reliable acknowledge) ⟨e.timed st, threads⟩
        ⟨e.timed (p.run (e.respond who) st).2,
          Function.update threads who (ofExcept (p.run (e.respond who) st).1 >>= f)⟩ := by
  induction p with
  | ret a =>
    intro st threads _ hi
    rw [show Function.update threads who (ofExcept ((ret a : Flow α).run (e.respond who) st).1 >>= f) =
      threads from Function.update_eq_self_iff.mpr hi.symm]
    exact .refl
  | raise x =>
    intro st threads _ hi
    rw [show Function.update threads who
        (ofExcept ((raise x : Flow α).run (e.respond who) st).1 >>= f) =
      threads from Function.update_eq_self_iff.mpr hi.symm]
    exact .refl
  | call r k ih =>
    intro st threads hp hi
    have h1 : Step (Reliable acknowledge) ⟨e.timed st, threads⟩
        ⟨e.timed (e.respond who st r).2,
          Function.update threads who (k (e.respond who st r).1 >>= f)⟩ :=
      .call (k := fun x => k x >>= f) who hi (reliable_respond hack hp.1)
    have h2 := ih (e.respond who st r).1 (e.respond who st r).2
      (Function.update threads who (k (e.respond who st r).1 >>= f)) hp.2 (Function.update_self ..)
    rw [Function.update_idem] at h2
    exact .head h1 h2

/-- The same at the end of an interleaving, with what is known of the run. -/
theorem Wp.steps [DecidableEq ι] (who : ι)
    {c : Config ι (Timed ι) Req Req.Ans PyExc β} {threads : ι → Flow β}
    (hs : Steps (Reliable acknowledge) c ⟨e.timed st, threads⟩)
    (hack : ∀ command, e.acknowledge command = .ok (acknowledge command)) {p : Flow α}
    {R : Except PyExc α → Solo ι → Prop} (h : e.Wp who p R st) (hp : e.Accepts who p st)
    {f : α → Flow β} (hi : threads who = p >>= f) :
    ∃ o st', R o st' ∧ Steps (Reliable acknowledge) c
      ⟨e.timed st', Function.update threads who (ofExcept o >>= f)⟩ :=
  ⟨_, _, h, hs.trans (steps_accepts hack p st threads hp hi)⟩

/-- A `try` block whose body a client runs alone. -/
theorem Wp.steps_try [DecidableEq ι] (who : ι)
    {c : Config ι (Timed ι) Req Req.Ans PyExc β} {threads : ι → Flow β}
    (hs : Steps (Reliable acknowledge) c ⟨e.timed st, threads⟩)
    (hack : ∀ command, e.acknowledge command = .ok (acknowledge command)) {body : Flow α}
    {handler : PyExc → Option (Flow β)} {rest : α → Flow β} {R : Except PyExc α → Solo ι → Prop}
    (h : e.Wp who body R st) (hp : e.Accepts who body st)
    (hi : threads who = Flow.tryExcept body handler rest) :
    ∃ o st', R o st' ∧ Steps (Reliable acknowledge) c
      ⟨e.timed st', Function.update threads who (match o with
        | .ok a => rest a
        | .error x => (handler x).getD (.raise x))⟩ := by
  have hrun := steps_accepts hack body.attempt st threads (accepts_attempt hp) hi
  rw [run_attempt] at hrun
  exact ⟨_, _, h, hs.trans hrun⟩

/-! ## Programs that meet no refusal -/

theorem accepts_of_issues {p : Flow α} (hp : p.Issues fun r => ∀ s, r.Accepted s) (st : Solo ι) :
    e.Accepts who p st := by
  induction p generalizing st with
  | ret a => trivial
  | raise x => trivial
  | call r k ih => exact ⟨hp.1 _, ih _ (hp.2 _) _⟩

theorem accepts_op_bind {o : Op} {f : o.Result → Flow β} {v : o.Result} {s : Store}
    (ho : o.run st.world.store = .ok (v, s)) (h : e.Accepts who (f v) (st.applied who o s)) :
    e.Accepts who (Flow.op o >>= f) st := by
  refine ⟨fun _ => ⟨v, s, ho⟩, ?_⟩
  rw [respond_ok ho]
  exact h

theorem accepts_op_refused {o : Op} {f : o.Result → Flow β} {x : PyExc}
    (ho : o.run st.world.store = .error x) (hop : o.appendsAudit = false) :
    e.Accepts who (Flow.op o >>= f) st := by
  refine ⟨fun h => ?_, ?_⟩
  · rw [hop] at h
    cases h
  · rw [respond_error ho]
    trivial

end Environment

/-- Every refusal of an operation ends the program. -/
def Strict : Flow α → Prop
  | .ret _ => True
  | .raise _ => True
  | .call r k => (∀ x, Strict (k x)) ∧
      match r, k with
      | .store _, k => ∀ x, k (.error x) = .raise x
      | _, _ => True

theorem Strict.bind {p : Flow α} {f : α → Flow β} (hp : Strict p) (hf : ∀ a, Strict (f a)) :
    Strict (p >>= f) := by
  induction p with
  | ret a => exact hf a
  | raise x => trivial
  | call r k ih =>
    refine ⟨fun x => ih x (hp.1 x), ?_⟩
    cases r with
    | store op =>
      intro x
      have hx : k (.error x) = .raise x := hp.2 x
      exact congrArg (fun q : Flow α => q >>= f) hx
    | _ => trivial

theorem strict_ofExcept (x : Except PyExc α) : Strict (ofExcept x) := by
  cases x <;> trivial

theorem strict_op (o : Op) : Strict (Flow.op o) := ⟨fun x => strict_ofExcept x, fun _ => rfl⟩

/-- A program that ends at the first refusal and has returned has met none. -/
theorem Environment.accepts_of_strict {e : Environment} {who : ι} {p : Flow α} (hp : Strict p) :
    ∀ {st : Solo ι} {a : α}, (p.run (e.respond who) st).1 = .ok a → e.Accepts who p st := by
  induction p with
  | ret a => exact fun _ => trivial
  | raise x => exact fun _ => trivial
  | call r k ih =>
    intro st a h
    refine ⟨?_, ih _ (hp.1 _) h⟩
    cases r with
    | store op =>
      intro _
      cases hop : op.run st.world.store with
      | ok vs => exact ⟨vs.1, vs.2, rfl⟩
      | error x =>
        have hx : k (.error x) = .raise x := hp.2 x
        rw [run_call, Environment.respond_error hop, hx] at h
        cases h
    | _ => trivial

end CloudOpsAgent
