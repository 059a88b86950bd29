/-
  A call that runs alone, and a call that suffers one fault.

  In an `Environment` every answer is determined: the clock, the fresh identifiers, the read-backs
  and the agent are functions of the number of requests made so far (the tick), and repository operations do what
  they do.  `e.respond` answers one request; running a flow with it is `Prog.run`.

  1. **Fault-free runs** — `e.Wp who p Q st`: the run of `p` from `st` ends in `Q`.  One rule for
     each primitive, so that a flow is executed symbolically from its top.

  2. **One fault** — `e.faulty who fault p (some n) st` runs `p` until its repository operation
     number `n`, which fails: it reports a storage failure, or the call crashes, before or after
     taking effect.  Everything else is fault-free, the handlers of the failure included.

  3. **Both are interleavings** — of a system in which nobody else is scheduled.
-/
import CloudOpsAgent.Flow.Rules

namespace CloudOpsAgent

open ClientProg ClientProg.Prog

variable [Sha256] {ι α β : Type}

/-- **The rule of `try`** for a run alone. -/
theorem ends_try {σ : Type} {h : σ → (r : Req) → r.Ans × σ} {body : Flow α}
    {handler : PyExc → Option (Flow β)} {rest : α → Flow β} {R : Except PyExc α → σ → Prop}
    {Q : Except PyExc β → σ → Prop} {w : σ} (hbody : Ends h body R w)
    (hrest : ∀ a w', R (.ok a) w' → Ends h (rest a) Q w')
    (hraised : ∀ x w', R (.error x) w' → Ends h ((handler x).getD (.raise x)) Q w') :
    Ends h (Flow.tryExcept body handler rest) Q w := by
  refine .bind (R := fun o w' => ∃ x, o = .ok x ∧ R x w') (.attempt ?_) (fun x w' hx => ?_)
    fun x w' hx => ?_
  · exact hbody.mono fun o w' h => ⟨o, rfl, h⟩
  · obtain ⟨y, hy, hR⟩ := hx
    cases hy
    cases x with
    | ok a => exact hrest a w' hR
    | error x => exact hraised x w' hR
  · obtain ⟨y, hy, -⟩ := hx
    cases hy

/-! ## Environments -/

/-- Everything a call that runs alone is answered. -/
structure Environment where
  now : Nat → Time
  now_mono : Monotone now
  ids : Nat → UUID
  inspections : Nat → ControlResult InstanceInspection
  acknowledge : StopExecutionCommand → Except PyExc ExecutionAcknowledgement
  agent : Nat → AgentInput → Except PyExc AgentReply :=
    fun _ _ => .error (.other "agent is unavailable")
  nonces : Nat → String := fun _ => ""

/-- The world of a call that runs alone, and the number of requests it has made. -/
structure Solo [Sha256] (ι : Type) where
  world : World ι
  tick : Nat := 0

namespace Solo

/-- One request later. -/
def next (st : Solo ι) : Solo ι := ⟨st.world, st.tick + 1⟩

/-- One repository operation later. -/
def applied (st : Solo ι) (who : ι) (op : Op) (s : Store) : Solo ι :=
  ⟨st.world.applied who op s, st.tick + 1⟩

@[simp] theorem next_world (st : Solo ι) : st.next.world = st.world := rfl
@[simp] theorem next_tick (st : Solo ι) : st.next.tick = st.tick + 1 := rfl
@[simp] theorem applied_world (st : Solo ι) (who : ι) (op : Op) (s : Store) :
    (st.applied who op s).world = st.world.applied who op s := rfl
@[simp] theorem applied_tick (st : Solo ι) (who : ι) (op : Op) (s : Store) :
    (st.applied who op s).tick = st.tick + 1 := rfl

end Solo

namespace Environment

variable (e : Environment) (who : ι)

/-- What `who` is answered, and the world afterwards. -/
def respond (st : Solo ι) : (r : Req) → r.Ans × Solo ι
  | .store op =>
    match op.run st.world.store with
    | .ok (v, s) => (.ok v, st.applied who op s)
    | .error x => (.error x, st.next)
  | .clock => (e.now st.tick, st.next)
  | .freshId => (e.ids st.tick, st.next)
  | .nonce => (e.nonces st.tick, st.next)
  | .sleep _ => ((), st.next)
  | .inspect id identity => (e.inspections st.tick,
      ⟨st.world.logged (.inspected who id identity (e.inspections st.tick)), st.tick + 1⟩)
  | .stop command =>
    (e.acknowledge command, ⟨st.world.logged (.executed who command st.world.store), st.tick + 1⟩)
  | .agent input => (e.agent st.tick input, st.next)
  | .mockGetReceipt _ | .mockExecute .. | .mockVerify _ => (.error .cloudAdapterUnavailable, st.next)

variable {e who} in
theorem respond_ok {st : Solo ι} {o : Op} {v : o.Result} {s : Store}
    (h : o.run st.world.store = .ok (v, s)) :
    e.respond who st (.store o) = (.ok v, st.applied who o s) := by
  simp only [respond, h]

variable {e who} in
theorem respond_error {st : Solo ι} {o : Op} {x : PyExc} (h : o.run st.world.store = .error x) :
    e.respond who st (.store o) = (.error x, st.next) := by
  simp only [respond, h]

theorem answers_respond (st : Solo ι) (r : Req) :
    answers who st.world r (e.respond who st r).1 (e.respond who st r).2.world := by
  cases r with
  | store op =>
    cases h : op.run st.world.store with
    | error x =>
      rw [respond_error h]
      exact .refused h
    | ok vs =>
      rw [respond_ok h]
      exact .done h
  | _ => rfl

/-! ## Fault-free runs -/

/-- The run of `p` from `st` ends in `Q`. -/
def Wp (p : Flow α) (Q : Except PyExc α → Solo ι → Prop) (st : Solo ι) : Prop :=
  Q (p.run (e.respond who) st).1 (p.run (e.respond who) st).2

variable {e who} {Q : Except PyExc β → Solo ι → Prop} {st : Solo ι}

theorem Wp.mono {Q' : Except PyExc β → Solo ι → Prop} {p : Flow β}
    (hQ : ∀ o st', Q o st' → Q' o st') (h : e.Wp who p Q st) : e.Wp who p Q' st := hQ _ _ h

theorem Wp.and {Q' : Except PyExc β → Solo ι → Prop} {p : Flow β} (h : e.Wp who p Q st)
    (h' : e.Wp who p Q' st) : e.Wp who p (fun o st' => Q o st' ∧ Q' o st') st := ⟨h, h'⟩

/-- A request takes one tick. -/
theorem respond_tick (st : Solo ι) (r : Req) : (e.respond who st r).2.tick = st.tick + 1 := by
  cases r with
  | store op =>
    cases h : op.run st.world.store with
    | error x =>
      rw [respond_error h]
      rfl
    | ok vs =>
      rw [respond_ok h]
      rfl
  | _ => rfl

/-- Time passes. -/
theorem wp_tick (p : Flow β) (st : Solo ι) : e.Wp who p (fun _ st' => st.tick ≤ st'.tick) st := by
  induction p generalizing st with
  | ret a => exact le_rfl
  | raise x => exact le_rfl
  | call r k ih => exact (Nat.le_succ _).trans ((respond_tick st r).symm.le.trans (ih _ _))

theorem wp_ret {b : β} (h : Q (.ok b) st) : e.Wp who (.ret b) Q st := h

theorem wp_raise {x : PyExc} (h : Q (.error x) st) : e.Wp who (.raise x) Q st := h

theorem wp_ofExcept {x : Except PyExc β} (h : Q x st) : e.Wp who (ofExcept x) Q st :=
  ends_ofExcept h

theorem wp_bind {p : Flow α} {f : α → Flow β} {R : Except PyExc α → Solo ι → Prop}
    (hp : e.Wp who p R st) (hok : ∀ a st', R (.ok a) st' → e.Wp who (f a) Q st')
    (herr : ∀ x st', R (.error x) st' → Q (.error x) st') : e.Wp who (p >>= f) Q st :=
  Ends.bind hp hok herr

theorem wp_try {body : Flow α} {handler : PyExc → Option (Flow β)} {rest : α → Flow β}
    {R : Except PyExc α → Solo ι → Prop} (hbody : e.Wp who body R st)
    (hrest : ∀ a st', R (.ok a) st' → e.Wp who (rest a) Q st')
    (hraised : ∀ x st', R (.error x) st' → e.Wp who ((handler x).getD (.raise x)) Q st') :
    e.Wp who (Flow.tryExcept body handler rest) Q st := ends_try hbody hrest hraised

theorem wp_clock_bind {f : Time → Flow β} (h : e.Wp who (f (e.now st.tick)) Q st.next) :
    e.Wp who (Flow.clock >>= f) Q st := h

theorem wp_freshId_bind {f : UUID → Flow β} (h : e.Wp who (f (e.ids st.tick)) Q st.next) :
    e.Wp who (Flow.freshId >>= f) Q st := h

theorem wp_nonce_bind {f : String → Flow β} (h : e.Wp who (f (e.nonces st.tick)) Q st.next) :
    e.Wp who (Flow.nonce >>= f) Q st := h

theorem wp_inspect_bind {id : String} {identity : InvestigationIdentity}
    {f : ControlResult InstanceInspection → Flow β}
    (h : e.Wp who (f (e.inspections st.tick)) Q
      ⟨st.world.logged (.inspected who id identity (e.inspections st.tick)), st.tick + 1⟩) :
    e.Wp who (Flow.inspect id identity >>= f) Q st := h

theorem wp_stop {command : StopExecutionCommand}
    {Q : Except PyExc ExecutionAcknowledgement → Solo ι → Prop}
    (h : Q (e.acknowledge command)
      ⟨st.world.logged (.executed who command st.world.store), st.tick + 1⟩) :
    e.Wp who (Flow.stop command) Q st := by
  change e.Wp who (ofExcept (e.acknowledge command)) Q _
  exact wp_ofExcept h

theorem wp_agent {input : AgentInput} {Q : Except PyExc AgentReply → Solo ι → Prop}
    (h : Q (e.agent st.tick input) st.next) : e.Wp who (Flow.agent input) Q st := by
  change e.Wp who (ofExcept (e.agent st.tick input)) Q _
  exact wp_ofExcept h

theorem wp_op_bind {o : Op} {f : o.Result → Flow β} {v : o.Result} {s : Store}
    (ho : o.run st.world.store = .ok (v, s)) (h : e.Wp who (f v) Q (st.applied who o s)) :
    e.Wp who (Flow.op o >>= f) Q st := by
  change e.Wp who (ofExcept (e.respond who st (.store o)).1 >>= f) Q (e.respond who st (.store o)).2
  rw [respond_ok ho]
  exact h

theorem wp_op {o : Op} {Q : Except PyExc o.Result → Solo ι → Prop} {v : o.Result} {s : Store}
    (ho : o.run st.world.store = .ok (v, s)) (h : Q (.ok v) (st.applied who o s)) :
    e.Wp who (Flow.op o) Q st := by
  change e.Wp who (ofExcept (e.respond who st (.store o)).1) Q (e.respond who st (.store o)).2
  rw [respond_ok ho]
  exact h

theorem wp_op_refused {o : Op} {f : o.Result → Flow β} {x : PyExc}
    (ho : o.run st.world.store = .error x) (h : Q (.error x) st.next) :
    e.Wp who (Flow.op o >>= f) Q st := by
  change e.Wp who (ofExcept (e.respond who st (.store o)).1 >>= f) Q (e.respond who st (.store o)).2
  rw [respond_error ho]
  exact h

/-- What every request of one kind leaves alone is still there at the end. -/
theorem wp_frame {P : Req → Prop} {F : World ι → Prop}
    (hF : ∀ w r x w', P r → answers who w r x w' → F w → F w') {p : Flow β} (hP : p.Issues P)
    {st : Solo ι} (hw : F st.world) : e.Wp who p (fun _ st' => F st'.world) st := by
  induction p generalizing st with
  | ret a => exact hw
  | raise x => exact hw
  | call r k ih =>
    exact ih _ (hP.2 _) (hF _ r _ _ hP.1 (e.answers_respond who st r) hw)

theorem wp_returns {R : β → Prop} {p : Flow β} (hp : p.Returns R) :
    e.Wp who p (fun o _ => ∀ b, o = .ok b → R b) st := hp.ends _ st

/-- Whatever a flow does, the store evolves. -/
theorem wp_evolves (e : Environment) (who : ι) (st : Solo ι) (q : Flow α) :
    e.Wp who q (fun _ st' => st.world.store.Evolves st'.world.store) st :=
  wp_frame (P := fun _ => True) (F := fun w => st.world.store.Evolves w.store)
    (fun _ _ _ _ _ hx h => h.trans (answers_evolves hx)) (issues_true q) (.refl _)

/-- Whatever a flow does, the history grows. -/
theorem wp_log (e : Environment) (who : ι) (st : Solo ι) (q : Flow α) :
    e.Wp who q (fun _ st' => st.world.log <+: st'.world.log) st :=
  wp_frame (P := fun _ => True) (F := fun w => st.world.log <+: w.log)
    (fun _ _ _ _ _ hx h => h.trans (answers_log hx)) (issues_true q) (List.prefix_refl _)

end Environment

/-! ## One fault -/

/-- How a repository operation fails. -/
inductive FaultMode where
  | raisesBefore | raisesAfter | crashesBefore | crashesAfter
  deriving DecidableEq

namespace FaultMode

def takesEffect : FaultMode → Bool
  | raisesAfter | crashesAfter => true
  | raisesBefore | crashesBefore => false

def crashes : FaultMode → Bool
  | crashesBefore | crashesAfter => true
  | raisesBefore | raisesAfter => false

end FaultMode

structure Fault where
  mode : FaultMode
  error : PyExc
  storage : error.isStorage

namespace Fault

/-- Any fault, for the runs that end before it strikes. -/
def late : Fault := ⟨.crashesBefore, .storageDependency "", rfl⟩

/-- What the struck operation makes of the call it is part of. -/
def outcome (fault : Fault) : Option (Except PyExc α) :=
  if fault.mode.crashes then none else some (.error fault.error)

/-- Where the struck operation leaves a run: before it, or at `st'`. -/
def struck (fault : Fault) (st st' : Solo ι) : Solo ι :=
  match fault.mode with
  | .raisesBefore => st.next
  | .crashesBefore => st
  | .raisesAfter | .crashesAfter => st'

omit [Sha256] in
/-- A struck operation returns nothing. -/
theorem outcome_ne_ok (fault : Fault) (a : α) :
    (fault.outcome : Option (Except PyExc α)) ≠ some (.ok a) := by
  unfold outcome
  split <;> simp

theorem struck_store (fault : Fault) (st : Solo ι) (who : ι) (op : Op) (s : Store) :
    (fault.struck st (st.applied who op s)).world.store =
      if fault.mode.takesEffect then s else st.world.store := by
  unfold struck
  cases fault.mode <;> rfl

/-- How many of a row of operations take effect, when number `n` is struck. -/
def effective (fault : Fault) (n : Nat) : Nat := if fault.mode.takesEffect then n + 1 else n

variable {fault : Fault} {n : Nat}

omit [Sha256] in
theorem effective_of_false (h : fault.mode.takesEffect = false) : fault.effective n = n := by
  simp [effective, h]

omit [Sha256] in
theorem effective_of_true (h : fault.mode.takesEffect = true) : fault.effective n = n + 1 := by
  simp [effective, h]

omit [Sha256] in
theorem effective_succ : fault.effective (n + 1) = fault.effective n + 1 := by
  unfold effective
  split <;> rfl

omit [Sha256] in
theorem effective_add (m : Nat) : fault.effective (n + m) = fault.effective n + m := by
  unfold effective
  split <;> omega

omit [Sha256] in
theorem effective_le (fault : Fault) : fault.effective n ≤ n + 1 := by
  unfold effective
  split <;> omega

omit [Sha256] in
theorem le_effective (fault : Fault) : n ≤ fault.effective n := by
  unfold effective
  split
  · exact Nat.le_succ n
  · exact le_rfl

end Fault

/-- The answer of a repository operation that fails. -/
def Req.fail (x : PyExc) : (r : Req) → Option r.Ans
  | .store _ => some (.error x)
  | _ => none

/-- How a run with one fault ended: with an outcome, or crashed (`none`). -/
structure FaultRun [Sha256] (ι α : Type) where
  outcome : Option (Except PyExc α)
  /-- The repository operations still to be made before the fault. -/
  left : Option Nat
  final : Solo ι

/-- Go on from where a run with a fault returned. -/
def FaultRun.andThen (x : FaultRun ι α) (f : α → Option Nat → Solo ι → FaultRun ι β) :
    FaultRun ι β :=
  match x.outcome with
  | some (.ok a) => f a x.left x.final
  | some (.error err) => ⟨some (.error err), x.left, x.final⟩
  | none => ⟨none, x.left, x.final⟩

namespace Environment

variable (e : Environment) (who : ι) (fault : Fault)

/-- One request of a run with its fault at repository operation number `left`: the answer, unless
    the call crashes. -/
def answer (left : Option Nat) (st : Solo ι) (r : Req) : Option r.Ans × Option Nat × Solo ι :=
  match left, r.fail fault.error with
  | some 0, some failure =>
    match fault.mode with
    | .raisesBefore => (some failure, none, st.next)
    | .raisesAfter => (some failure, none, (e.respond who st r).2)
    | .crashesBefore => (none, none, st)
    | .crashesAfter => (none, none, (e.respond who st r).2)
  | some (n + 1), some _ => (some (e.respond who st r).1, some n, (e.respond who st r).2)
  | left, _ => (some (e.respond who st r).1, left, (e.respond who st r).2)

/-- Run `p` with the fault at its repository operation number `left`; `none` if it is over. -/
def faulty : Flow α → Option Nat → Solo ι → FaultRun ι α
  | .ret a, left, st => ⟨some (.ok a), left, st⟩
  | .raise x, left, st => ⟨some (.error x), left, st⟩
  | .call r k, left, st =>
    match answer e who fault left st r with
    | (some a, left, st) => faulty (k a) left st
    | (none, left, st) => ⟨none, left, st⟩

variable {e who fault}

theorem faulty_bind (p : Flow α) (f : α → Flow β) (left : Option Nat) (st : Solo ι) :
    e.faulty who fault (p >>= f) left st =
      (e.faulty who fault p left st).andThen fun a => e.faulty who fault (f a) := by
  induction p generalizing left st with
  | ret a => rfl
  | raise x => rfl
  | call r k ih =>
    simp only [call_bind, faulty]
    split
    · exact ih _ _ _
    · rfl

theorem faulty_attempt (p : Flow α) (left : Option Nat) (st : Solo ι) :
    e.faulty who fault p.attempt left st =
      ⟨(e.faulty who fault p left st).outcome.map .ok, (e.faulty who fault p left st).left,
        (e.faulty who fault p left st).final⟩ := by
  induction p generalizing left st with
  | ret a => rfl
  | raise x => rfl
  | call r k ih =>
    simp only [attempt, faulty]
    split
    · exact ih _ _ _
    · rfl

/-- After the fault the run is fault-free. -/
theorem faulty_none (p : Flow α) (st : Solo ι) : e.faulty who fault p none st =
    ⟨some (p.run (e.respond who) st).1, none, (p.run (e.respond who) st).2⟩ := by
  induction p generalizing st with
  | ret a => rfl
  | raise x => rfl
  | call r k ih =>
    rw [run_call, ← ih]
    cases r <;> rfl

/-- The run of `p` with one fault ends in `Q`. -/
def FWp (e : Environment) (who : ι) (fault : Fault) (p : Flow α) (left : Option Nat)
    (Q : FaultRun ι α → Prop) (st : Solo ι) : Prop := Q (e.faulty who fault p left st)

variable {Q : FaultRun ι β → Prop} {st : Solo ι} {left : Option Nat} {n : Nat}

theorem FWp.mono {Q' : FaultRun ι β → Prop} {p : Flow β} (hQ : ∀ x, Q x → Q' x)
    (h : e.FWp who fault p left Q st) : e.FWp who fault p left Q' st := hQ _ h

theorem fwp_none {p : Flow β} (h : e.Wp who p (fun o st' => Q ⟨some o, none, st'⟩) st) :
    e.FWp who fault p none Q st := by
  unfold FWp
  rw [faulty_none]
  exact h

theorem fwp_ret {b : β} (h : Q ⟨some (.ok b), left, st⟩) : e.FWp who fault (.ret b) left Q st := h

theorem fwp_ofExcept {x : Except PyExc β} (h : Q ⟨some x, left, st⟩) :
    e.FWp who fault (ofExcept x) left Q st := by
  cases x <;> exact h

theorem fwp_bind {p : Flow α} {f : α → Flow β} {R : FaultRun ι α → Prop}
    (hp : e.FWp who fault p left R st)
    (hok : ∀ a l st', R ⟨some (.ok a), l, st'⟩ → e.FWp who fault (f a) l Q st')
    (herr : ∀ x l st', R ⟨some (.error x), l, st'⟩ → Q ⟨some (.error x), l, st'⟩)
    (hcrash : ∀ l st', R ⟨none, l, st'⟩ → Q ⟨none, l, st'⟩) :
    e.FWp who fault (p >>= f) left Q st := by
  unfold FWp at *
  rw [faulty_bind]
  generalize e.faulty who fault p left st = x at hp
  obtain ⟨_ | x | a, l, st'⟩ := x
  · exact hcrash l st' hp
  · exact herr x l st' hp
  · exact hok a l st' hp

/-- **The rule of `try`**, with the fault in the body or before it: a crash is not caught. -/
theorem fwp_try {body : Flow α} {handler : PyExc → Option (Flow β)} {rest : α → Flow β}
    {R : FaultRun ι α → Prop} (hbody : e.FWp who fault body left R st)
    (hrest : ∀ a l st', R ⟨some (.ok a), l, st'⟩ → e.FWp who fault (rest a) l Q st')
    (hraised : ∀ x l st', R ⟨some (.error x), l, st'⟩ →
      e.FWp who fault ((handler x).getD (.raise x)) l Q st')
    (hcrash : ∀ l st', R ⟨none, l, st'⟩ → Q ⟨none, l, st'⟩) :
    e.FWp who fault (Flow.tryExcept body handler rest) left Q st := by
  unfold FWp Flow.tryExcept at *
  rw [faulty_bind, faulty_attempt]
  generalize e.faulty who fault body left st = x at hbody
  obtain ⟨_ | x | a, l, st'⟩ := x
  · exact hcrash l st' hbody
  · exact hraised x l st' hbody
  · exact hrest a l st' hbody

theorem fwp_clock_bind {f : Time → Flow β} (h : e.FWp who fault (f (e.now st.tick)) left Q st.next) :
    e.FWp who fault (Flow.clock >>= f) left Q st := by
  cases left with
  | none => exact h
  | some n => cases n <;> exact h

theorem fwp_freshId_bind {f : UUID → Flow β}
    (h : e.FWp who fault (f (e.ids st.tick)) left Q st.next) :
    e.FWp who fault (Flow.freshId >>= f) left Q st := by
  cases left with
  | none => exact h
  | some n => cases n <;> exact h

theorem fwp_agent {input : AgentInput} {Q : FaultRun ι AgentReply → Prop}
    (h : Q ⟨some (e.agent st.tick input), left, st.next⟩) :
    e.FWp who fault (Flow.agent input) left Q st := by
  cases left with
  | none =>
    change e.FWp who fault (ofExcept (e.agent st.tick input)) none Q st.next
    exact fwp_ofExcept h
  | some n =>
    cases n <;>
    · change e.FWp who fault (ofExcept (e.agent st.tick input)) _ Q st.next
      exact fwp_ofExcept h

/-- A repository operation, whatever becomes of it. -/
theorem fwp_any_bind {o : Op} {f : o.Result → Flow β}
    (hstruck : n = 0 → ∀ st', st'.world = st.world ∨ st' = (e.respond who st (.store o)).2 →
      Q ⟨fault.outcome, none, st'⟩)
    (hlater : ∀ m, n = m + 1 → e.FWp who fault (ofExcept (e.respond who st (.store o)).1 >>= f)
      (some m) Q (e.respond who st (.store o)).2) :
    e.FWp who fault (Flow.op o >>= f) (some n) Q st := by
  change Q (e.faulty who fault (.call (.store o) fun x => ofExcept x >>= f) (some n) st)
  cases n with
  | zero =>
    have hbefore := hstruck rfl st.next (.inl rfl)
    have hcrashed := hstruck rfl st (.inl rfl)
    have hafter := hstruck rfl _ (.inr rfl)
    cases hm : fault.mode <;>
      simp only [Fault.outcome, FaultMode.crashes, hm, if_true, if_false, Bool.false_eq_true]
        at hbefore hcrashed hafter <;>
      simp only [faulty, answer, Req.fail, hm, ofExcept_error, raise_bind] <;> assumption
  | succ m =>
    simp only [faulty, answer, Req.fail]
    exact hlater m rfl

/-- A repository operation that can take effect: where the fault strikes it, how the run ends;
    elsewhere, what follows. -/
theorem fwp_op_bind {o : Op} {f : o.Result → Flow β} {v : o.Result} {s : Store}
    (ho : o.run st.world.store = .ok (v, s))
    (hstruck : n = 0 → Q ⟨fault.outcome, none, fault.struck st (st.applied who o s)⟩)
    (hlater : ∀ m, n = m + 1 → e.FWp who fault (f v) (some m) Q (st.applied who o s)) :
    e.FWp who fault (Flow.op o >>= f) (some n) Q st := by
  change Q (e.faulty who fault (.call (.store o) fun x => ofExcept x >>= f) (some n) st)
  cases n with
  | zero =>
    have hq := hstruck rfl
    cases hm : fault.mode <;>
      simpa only [faulty, answer, Req.fail, hm, respond_ok ho, ofExcept_error, raise_bind,
        Fault.outcome, Fault.struck, FaultMode.crashes, if_true, if_false, Bool.false_eq_true]
        using hq
  | succ m =>
    simp only [faulty, answer, Req.fail, respond_ok ho, ofExcept_ok, ret_bind]
    exact hlater m rfl

/-- The same, at the end of a program. -/
theorem fwp_op {o : Op} {Q : FaultRun ι o.Result → Prop} {v : o.Result} {s : Store}
    (ho : o.run st.world.store = .ok (v, s))
    (hstruck : n = 0 → Q ⟨fault.outcome, none, fault.struck st (st.applied who o s)⟩)
    (hlater : ∀ m, n = m + 1 → Q ⟨some (.ok v), some m, st.applied who o s⟩) :
    e.FWp who fault (Flow.op o) (some n) Q st := by
  rw [← bind_ret (Flow.op o)]
  exact fwp_op_bind ho hstruck fun m hm => fwp_ret (hlater m hm)

/-- An operation before the one that is struck. -/
theorem fwp_later_bind {o : Op} {f : o.Result → Flow β} {v : o.Result} {s : Store}
    (ho : o.run st.world.store = .ok (v, s))
    (h : e.FWp who fault (f v) (some n) Q (st.applied who o s)) :
    e.FWp who fault (Flow.op o >>= f) (some (n + 1)) Q st :=
  fwp_op_bind ho (fun hn => by omega) fun m hm => by
    obtain rfl : n = m := by omega
    exact h

theorem fwp_later_try {o : Op} {handler : PyExc → Option (Flow β)} {rest : o.Result → Flow β}
    {v : o.Result} {s : Store} (ho : o.run st.world.store = .ok (v, s))
    (h : e.FWp who fault (rest v) (some n) Q (st.applied who o s)) :
    e.FWp who fault (Flow.tryExcept (Flow.op o) handler rest) (some (n + 1)) Q st := by
  refine fwp_try (R := fun x => x = ⟨some (.ok v), some n, st.applied who o s⟩)
    (fwp_op ho (fun hn => by omega) fun m hm => ?_) ?_ ?_ ?_
  · obtain rfl : n = m := by omega
    rfl
  · rintro a l st' hx
    cases hx
    exact h
  · rintro x l st' hx
    cases hx
  · rintro l st' hx
    cases hx

/-- How a program of `c` operations ends, with the fault at its number `n`. -/
def Struck (fault : Fault) (c n : Nat) (x : FaultRun ι α) : Prop :=
  (n < c → x.outcome = fault.outcome ∧ x.left = none) ∧
    ∀ k, n = k + c → x.left = some k ∧ ∃ a, x.outcome = some (.ok a)

/-- One program after another: the fault strikes the first, or what is left of it the second. -/
theorem fwp_bind_struck {p : Flow α} {f : α → Flow β} {R : FaultRun ι α → Prop} {c : Nat}
    (hp : e.FWp who fault p (some n) (fun x => Struck fault c n x ∧ R x) st)
    (hstruck : n < c → ∀ st', R ⟨fault.outcome, none, st'⟩ → Q ⟨fault.outcome, none, st'⟩)
    (hlater : ∀ k a st', n = k + c → R ⟨some (.ok a), some k, st'⟩ →
      e.FWp who fault (f a) (some k) Q st') : e.FWp who fault (p >>= f) (some n) Q st := by
  unfold FWp at *
  rw [faulty_bind]
  generalize e.faulty who fault p (some n) st = x at hp
  obtain ⟨outcome, left, st'⟩ := x
  obtain ⟨⟨h1, h2⟩, hR⟩ := hp
  by_cases hn : n < c
  · obtain ⟨rfl, rfl⟩ := h1 hn
    have hq := hstruck hn st' hR
    unfold Fault.outcome at hq ⊢
    cases hc : fault.mode.crashes <;> rw [hc] at hq <;> exact hq
  · obtain ⟨k, hk⟩ : ∃ k, n = k + c := ⟨n - c, by omega⟩
    obtain ⟨rfl, a, rfl⟩ := h2 k hk
    exact hlater k a st' hk hR

/-- `try` around a program of `c` operations: a crash is not caught. -/
theorem fwp_try_struck {body : Flow α} {handler : PyExc → Option (Flow β)} {rest : α → Flow β}
    {R : FaultRun ι α → Prop} {c : Nat}
    (hbody : e.FWp who fault body (some n) (fun x => Struck fault c n x ∧ R x) st)
    (hcrashed : n < c → fault.mode.crashes = true → ∀ st', R ⟨none, none, st'⟩ →
      Q ⟨none, none, st'⟩)
    (hraised : n < c → fault.mode.crashes = false → ∀ st', R ⟨some (.error fault.error), none, st'⟩ →
      e.Wp who ((handler fault.error).getD (.raise fault.error))
        (fun o st'' => Q ⟨some o, none, st''⟩) st')
    (hlater : ∀ k a st', n = k + c → R ⟨some (.ok a), some k, st'⟩ →
      e.FWp who fault (rest a) (some k) Q st') :
    e.FWp who fault (Flow.tryExcept body handler rest) (some n) Q st := by
  unfold FWp Flow.tryExcept at *
  rw [faulty_bind, faulty_attempt]
  generalize e.faulty who fault body (some n) st = x at hbody
  obtain ⟨outcome, left, st'⟩ := x
  obtain ⟨⟨h1, h2⟩, hR⟩ := hbody
  by_cases hn : n < c
  · obtain ⟨rfl, rfl⟩ := h1 hn
    unfold Fault.outcome at hR ⊢
    cases hc : fault.mode.crashes <;> rw [hc] at hR
    · exact fwp_none (hraised hn hc st' hR)
    · exact hcrashed hn hc st' hR
  · obtain ⟨k, hk⟩ : ∃ k, n = k + c := ⟨n - c, by omega⟩
    obtain ⟨rfl, a, rfl⟩ := h2 k hk
    exact hlater k a st' hk hR

/-- A run whose fault did not strike yet is fault-free. -/
theorem faulty_some {p : Flow α} {left : Option Nat} {st : Solo ι}
    (h : (e.faulty who fault p left st).left.isSome) :
    (e.faulty who fault p left st).outcome = some (p.run (e.respond who) st).1 ∧
      (e.faulty who fault p left st).final = (p.run (e.respond who) st).2 := by
  induction p generalizing left st with
  | ret a => exact ⟨rfl, rfl⟩
  | raise x => exact ⟨rfl, rfl⟩
  | call r k ih =>
    have hnone : ∀ (q : Flow α) (st' : Solo ι), ¬(e.faulty who fault q none st').left.isSome := by
      intro q st'
      rw [faulty_none]
      simp
    simp only [faulty, answer] at h ⊢
    cases left with
    | none => cases r <;> exact absurd h (hnone _ _)
    | some n =>
      cases r with
      | store op =>
        cases n with
        | zero =>
          simp only [Req.fail] at h
          cases hm : fault.mode <;> simp only [hm] at h <;>
            first | exact absurd h (hnone _ _) | cases h
        | succ m => exact ih _ h
      | _ => cases n <;> exact ih _ h

/-- A fault that comes after the end shows the fault-free run. -/
theorem wp_of_fwp (fault : Fault) (n : ℕ) {p : Flow β} {Q : Except PyExc β → Solo ι → Prop}
    (h : e.FWp who fault p (some n)
      (fun x => x.left.isSome ∧ ∀ o, x.outcome = some o → Q o x.final) st) : e.Wp who p Q st := by
  obtain ⟨hl, hq⟩ := h
  obtain ⟨ho, hf⟩ := faulty_some hl
  have := hq _ ho
  rwa [hf] at this

/-! ## Both are interleavings -/

variable [DecidableEq ι]

/-- A fault-free run, with nobody else scheduled. -/
theorem steps_solo (e : Environment) (who : ι) (st : Solo ι) (threads : ι → Flow α) :
    Steps answers ⟨st.world, threads⟩ ⟨((threads who).run (e.respond who) st).2.world,
      Function.update threads who (ofExcept ((threads who).run (e.respond who) st).1)⟩ :=
  steps_run answers Solo.world (e.answers_respond who) (threads who) st threads rfl

omit [DecidableEq ι] in
/-- A faulty answer is one the world may give. -/
theorem answers_answer {who : ι} {st st' : Solo ι} {left left' : Option Nat} {r : Req} {a : r.Ans}
    (h : answer e who fault left st r = (some a, left', st')) :
    answers who st.world r a st'.world := by
  unfold answer at h
  split at h
  · rename_i failure hfail
    cases r with
    | store op =>
      cases hfail
      split at h
      · cases h
        exact .failedBefore fault.storage
      · cases h
        cases ho : op.run st.world.store with
        | error x =>
          rw [respond_error ho]
          exact .failedBefore fault.storage
        | ok vs =>
          rw [respond_ok ho]
          exact .failedAfter ho fault.storage
      · cases h
      · cases h
    | _ => cases hfail
  · cases h
    exact e.answers_respond who st r
  · cases h
    exact e.answers_respond who st r

omit [DecidableEq ι] in
/-- A crash leaves the world before the operation or after it. -/
theorem answer_crashed {who : ι} {st st' : Solo ι} {left left' : Option Nat} {r : Req}
    (h : answer e who fault left st r = (none, left', st')) :
    st' = st ∨ st' = (e.respond who st r).2 := by
  unfold answer at h
  split at h
  · split at h <;> cases h <;> simp
  · cases h
  · cases h

omit [DecidableEq ι] in
/-- What every request of one kind leaves alone is still there at the end, crash or not. -/
theorem fwp_frame {P : Req → Prop} {F : World ι → Prop}
    (hF : ∀ w r x w', P r → answers who w r x w' → F w → F w') {p : Flow β} (hP : p.Issues P)
    {left : Option Nat} {st : Solo ι} (hw : F st.world) :
    e.FWp who fault p left (fun x => F x.final.world) st := by
  induction p generalizing left st with
  | ret a => exact hw
  | raise x => exact hw
  | call r k ih =>
    unfold FWp
    rcases h : answer e who fault left st r with ⟨_ | a, left', st'⟩ <;> simp only [faulty, h]
    · obtain rfl | rfl := answer_crashed h
      · exact hw
      · exact hF _ r _ _ hP.1 (e.answers_respond who st r) hw
    · exact ih a (hP.2 a) (hF _ r _ _ hP.1 (answers_answer h) hw)

/-- A run with a fault, with nobody else scheduled; a call that crashed is left where it was. -/
theorem steps_faulty (e : Environment) (who : ι) (fault : Fault) (p : Flow α) :
    ∀ (left : Option Nat) (st : Solo ι) (threads : ι → Flow α), threads who = p →
      ∃ q, Steps answers ⟨st.world, threads⟩
        ⟨(e.faulty who fault p left st).final.world, Function.update threads who q⟩ := by
  induction p with
  | ret a =>
    refine fun _ st threads hi => ⟨.ret a, ?_⟩
    rw [Function.update_eq_self_iff.mpr hi.symm]
    exact .refl
  | raise x =>
    refine fun _ st threads hi => ⟨.raise x, ?_⟩
    rw [Function.update_eq_self_iff.mpr hi.symm]
    exact .refl
  | call r k ih =>
    intro left st threads hi
    rcases h : answer e who fault left st r with ⟨_ | a, left', st'⟩
    · -- crashed: before the operation, or after it took effect
      simp only [faulty, h]
      obtain rfl | rfl := answer_crashed h
      · refine ⟨threads who, ?_⟩
        rw [Function.update_eq_self]
      · exact ⟨_, .single (.call who hi (e.answers_respond who st r))⟩
    · simp only [faulty, h]
      obtain ⟨q, hq⟩ := ih a left' st' (Function.update threads who (k a)) (Function.update_self ..)
      rw [Function.update_idem] at hq
      exact ⟨q, .head (.call who hi (answers_answer h)) hq⟩

end Environment

end CloudOpsAgent
