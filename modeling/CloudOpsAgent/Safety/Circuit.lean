/-
  `DependencyCircuitBreaker`: process-local circuit state for bounded read operations.

  A permit names the generation it was issued in, and the breaker counts a generation up whenever the
  circuit opens, half-opens or closes again.  A late outcome is therefore recognised by its number, in
  whatever state the circuit is by then.

      CLOSED ─ failure_threshold transient failures in a row ─→ OPEN
      OPEN ─ acquire after the cooldown ─→ HALF_OPEN, one probe
      HALF_OPEN ─ the probe fails ─→ OPEN        HALF_OPEN ─ the probe answers ─→ CLOSED

  1. **The breaker** — one state per dependency, and the calls on it, each atomic under its lock.
     Finite clock readings are any linear order with an addition: the sum of the reading and the
     cooldown may be rounded, as a float's is, and nothing below depends on how.

  2. **Runs** — any order of calls, with permits the breaker issued, recorded any number of times or
     never (`Circuit.Reachable`).  The readings may even go back.

  3. **The invariant** (`DependencyState.Fits`), and what follows from it (`circuit_correct`).
-/
import Mathlib.Order.Lattice
import Mathlib.Data.Nat.Cast.Basic
import Mathlib.Data.List.Basic

namespace CloudOpsAgent

/-! ## The breaker -/

inductive CircuitState where
  | closed | opened | halfOpen
  deriving DecidableEq

inductive CircuitDependency where
  | bedrockModel | ec2Read | cloudwatchRead | verificationRead
  deriving DecidableEq

variable {T : Type} [LinearOrder T] [NatCast T] [Add T]

structure CircuitBreakerSettings (T : Type) [LinearOrder T] [NatCast T] where
  failureThreshold : Nat := 2
  cooldownSeconds : T := (30 : Nat)
  threshold_ok : 1 ≤ failureThreshold ∧ failureThreshold ≤ 10
  cooldown_ok : (0 : Nat) < cooldownSeconds ∧ cooldownSeconds ≤ (300 : Nat)

/-- What the calls raise. -/
inductive CircuitError where
  | circuitOpen (dependency : CircuitDependency)
  | stateUnavailable (dependency : CircuitDependency)
  deriving DecidableEq

/-- Generation-bound permission for one bounded read operation. -/
structure CircuitPermit where
  dependency : CircuitDependency
  generation : Nat
  halfOpen : Bool
  deriving DecidableEq

structure DependencyState (T : Type) where
  state : CircuitState := .closed
  consecutiveTransientFailures : Nat := 0
  retryAt : Option T := none
  generation : Nat := 0
  halfOpenProbeActive : Bool := false

namespace DependencyState

/-- The check of `_state` on a state it finds. -/
def consistent (s : DependencyState T) : Bool :=
  match s.state with
  | .closed => s.retryAt.isNone && !s.halfOpenProbeActive
  | .opened => s.retryAt.isSome && !s.halfOpenProbeActive
  | .halfOpen => s.retryAt.isSome && s.halfOpenProbeActive

/-- `_open`. -/
def open' (settings : CircuitBreakerSettings T) (now : T) (s : DependencyState T) :
    DependencyState T :=
  { s with
    state := .opened
    retryAt := some (now + settings.cooldownSeconds)
    halfOpenProbeActive := false
    generation := s.generation + 1 }

/-- `acquire`, under the lock. -/
def acquire (dependency : CircuitDependency) (now : T) (s : DependencyState T) :
    Except CircuitError CircuitPermit × DependencyState T :=
  match s.state with
  | .closed => (.ok ⟨dependency, s.generation, false⟩, s)
  | .opened =>
    match s.retryAt with
    | none => (.error (.stateUnavailable dependency), s)
    | some retryAt =>
      if now < retryAt then (.error (.circuitOpen dependency), s)
      else (.ok ⟨dependency, s.generation + 1, true⟩, { s with
        state := .halfOpen
        halfOpenProbeActive := true
        generation := s.generation + 1 })
  | .halfOpen => (.error (.circuitOpen dependency), s)

/-- Whether the permit of a probe finds its probe gone. -/
def probeLost (permit : CircuitPermit) (s : DependencyState T) : Bool :=
  permit.halfOpen && (s.state != .halfOpen || !s.halfOpenProbeActive)

/-- `_record_non_transient`, under the lock. -/
def recordNonTransient (permit : CircuitPermit) (s : DependencyState T) :
    Except CircuitError Unit × DependencyState T :=
  if permit.generation ≠ s.generation then (.ok (), s)
  else if probeLost permit s then (.error (.stateUnavailable permit.dependency), s)
  else if !permit.halfOpen ∧ s.state ≠ .closed then (.ok (), s)
  else (.ok (), {
    state := .closed
    consecutiveTransientFailures := 0
    retryAt := none
    halfOpenProbeActive := false
    generation := if permit.halfOpen then s.generation + 1 else s.generation })

/-- `record_transient_failure`, under the lock. -/
def recordTransientFailure (settings : CircuitBreakerSettings T) (now : T) (permit : CircuitPermit)
    (s : DependencyState T) : Except CircuitError Unit × DependencyState T :=
  if permit.generation ≠ s.generation then (.ok (), s)
  else if permit.halfOpen then
    if probeLost permit s then (.error (.stateUnavailable permit.dependency), s)
    else (.ok (), s.open' settings now)
  else if s.state ≠ .closed then (.ok (), s)
  else
    let s := { s with consecutiveTransientFailures := s.consecutiveTransientFailures + 1 }
    if settings.failureThreshold ≤ s.consecutiveTransientFailures then (.ok (), s.open' settings now)
    else (.ok (), s)

end DependencyState

/-- `_states`: no dependency has a state before its first call. -/
structure DependencyCircuitBreaker (T : Type) [LinearOrder T] [NatCast T] where
  settings : CircuitBreakerSettings T
  states : CircuitDependency → Option (DependencyState T) := fun _ => none

namespace DependencyCircuitBreaker

/-- `setdefault`. -/
def stateOf (b : DependencyCircuitBreaker T) (d : CircuitDependency) : DependencyState T :=
  (b.states d).getD {}

def set (b : DependencyCircuitBreaker T) (d : CircuitDependency) (s : DependencyState T) :
    DependencyCircuitBreaker T :=
  { b with states := Function.update b.states d (some s) }

/-- A critical section: `_state`, then `f` on what it returns. -/
def withState {α : Type} (b : DependencyCircuitBreaker T) (d : CircuitDependency)
    (f : DependencyState T → Except CircuitError α × DependencyState T) :
    Except CircuitError α × DependencyCircuitBreaker T :=
  let s := b.stateOf d
  if !s.consistent then (.error (.stateUnavailable d), b.set d s)
  else ((f s).1, b.set d (f s).2)

def acquire (b : DependencyCircuitBreaker T) (d : CircuitDependency) (now : T) :
    Except CircuitError CircuitPermit × DependencyCircuitBreaker T :=
  b.withState d (DependencyState.acquire d now)

def recordSuccess (b : DependencyCircuitBreaker T) (permit : CircuitPermit) :
    Except CircuitError Unit × DependencyCircuitBreaker T :=
  b.withState permit.dependency (DependencyState.recordNonTransient permit)

def recordPermanentOutcome (b : DependencyCircuitBreaker T) (permit : CircuitPermit) :
    Except CircuitError Unit × DependencyCircuitBreaker T :=
  b.withState permit.dependency (DependencyState.recordNonTransient permit)

def recordTransientFailure (b : DependencyCircuitBreaker T) (permit : CircuitPermit) (now : T) :
    Except CircuitError Unit × DependencyCircuitBreaker T :=
  b.withState permit.dependency (DependencyState.recordTransientFailure b.settings now permit)

section

omit [Add T]

variable {b : DependencyCircuitBreaker T} {d d' : CircuitDependency} {s : DependencyState T}

@[simp] theorem set_settings : (b.set d s).settings = b.settings := rfl

@[simp] theorem stateOf_set_self : (b.set d s).stateOf d = s := by
  simp [stateOf, set]

theorem stateOf_set_of_ne (h : d' ≠ d) : (b.set d s).stateOf d' = b.stateOf d' := by
  simp [stateOf, set, h]

theorem withState_of_consistent {α : Type}
    {f : DependencyState T → Except CircuitError α × DependencyState T}
    (h : (b.stateOf d).consistent) :
    b.withState d f = ((f (b.stateOf d)).1, b.set d (f (b.stateOf d)).2) := by
  unfold withState
  simp only [h, Bool.not_true, Bool.false_eq_true, if_false]

end

end DependencyCircuitBreaker

/-! ## Runs -/

/-- One recorded outcome. -/
structure CircuitRecord where
  permit : CircuitPermit
  transient : Bool

/-- A breaker in use: beside it the permits issued so far, the outcomes recorded so far (the latest
    first), and for each dependency the clock reading with which it opened last. -/
structure Circuit (T : Type) [LinearOrder T] [NatCast T] where
  breaker : DependencyCircuitBreaker T
  issued : List CircuitPermit := []
  recorded : List CircuitRecord := []
  openedAt : CircuitDependency → Option T := fun _ => none

/-- A call on the breaker, with the clock reading it makes. -/
inductive CircuitCall (T : Type) where
  | acquire (dependency : CircuitDependency) (now : T)
  | success (permit : CircuitPermit)
  | permanentOutcome (permit : CircuitPermit)
  | transientFailure (permit : CircuitPermit) (now : T)

namespace CircuitCall

def dependency : CircuitCall T → CircuitDependency
  | .acquire d _ => d
  | .success p | .permanentOutcome p | .transientFailure p _ => p.dependency

/-- The outcome a call records. -/
def record? : CircuitCall T → Option CircuitRecord
  | .acquire _ _ => none
  | .success p | .permanentOutcome p => some ⟨p, false⟩
  | .transientFailure p _ => some ⟨p, true⟩

/-- The clock reading of a call. -/
def reading? : CircuitCall T → Option T
  | .acquire _ now | .transientFailure _ now => some now
  | .success _ | .permanentOutcome _ => none

/-- The critical section of a call: the permit it returns, if it is one that does. -/
def section' (settings : CircuitBreakerSettings T) (s : DependencyState T) :
    CircuitCall T → Except CircuitError (Option CircuitPermit) × DependencyState T
  | .acquire d now => ((s.acquire d now).1.map some, (s.acquire d now).2)
  | .success p | .permanentOutcome p =>
    ((s.recordNonTransient p).1.map fun _ => none, (s.recordNonTransient p).2)
  | .transientFailure p now =>
    ((s.recordTransientFailure settings now p).1.map fun _ => none,
      (s.recordTransientFailure settings now p).2)

end CircuitCall

namespace Circuit

abbrev stateOf (c : Circuit T) (d : CircuitDependency) : DependencyState T := c.breaker.stateOf d

abbrev generation (c : Circuit T) (d : CircuitDependency) : Nat := (c.stateOf d).generation

/-- The call itself: the permit it returns, if it is one that does. -/
def perform (c : Circuit T) : CircuitCall T →
    Except CircuitError (Option CircuitPermit) × DependencyCircuitBreaker T
  | .acquire d now => ((c.breaker.acquire d now).1.map some, (c.breaker.acquire d now).2)
  | .success p => ((c.breaker.recordSuccess p).1.map fun _ => none, (c.breaker.recordSuccess p).2)
  | .permanentOutcome p =>
    ((c.breaker.recordPermanentOutcome p).1.map fun _ => none,
      (c.breaker.recordPermanentOutcome p).2)
  | .transientFailure p now =>
    ((c.breaker.recordTransientFailure p now).1.map fun _ => none,
      (c.breaker.recordTransientFailure p now).2)

/-- What a call leaves behind. -/
def after (c : Circuit T) (call : CircuitCall T) : Circuit T where
  breaker := (c.perform call).2
  issued := match (c.perform call).1 with
    | .ok (some p) => p :: c.issued
    | _ => c.issued
  recorded := call.record?.toList ++ c.recorded
  openedAt d :=
    if ((c.perform call).2.stateOf d).state = .opened ∧ (c.stateOf d).state ≠ .opened then
      call.reading?
    else c.openedAt d

/-- A call its environment may make: what it records is the outcome of a permit that was issued. -/
def Allows (c : Circuit T) (call : CircuitCall T) : Prop :=
  ∀ r ∈ call.record?, r.permit ∈ c.issued

/-- Any sequence of calls. -/
inductive Reachable (settings : CircuitBreakerSettings T) : Circuit T → Prop
  | start : Reachable settings { breaker := { settings := settings } }
  | call {c : Circuit T} (h : Reachable settings c) {call : CircuitCall T} (ha : c.Allows call) :
    Reachable settings (c.after call)

end Circuit

/-- The transient failures of a generation recorded since its last other outcome. -/
def streak (d : CircuitDependency) (g : Nat) : List CircuitRecord → Nat
  | [] => 0
  | r :: rs =>
    if r.permit.dependency = d ∧ r.permit.generation = g then
      if r.transient then streak d g rs + 1 else 0
    else streak d g rs

/-- The half-open permits of a generation. -/
def probes (d : CircuitDependency) (g : Nat) (issued : List CircuitPermit) : List CircuitPermit :=
  issued.filter fun p => p.dependency = d ∧ p.generation = g ∧ p.halfOpen

/-! ## The invariant -/

section Fits

variable {d : CircuitDependency} {g : Nat}

theorem streak_append_none {rs : List CircuitRecord} {o : Option CircuitRecord}
    (h : ∀ r ∈ o, ¬ (r.permit.dependency = d ∧ r.permit.generation = g)) :
    streak d g (o.toList ++ rs) = streak d g rs := by
  cases o with
  | none => rfl
  | some r => simp [streak, h r rfl]

theorem streak_eq_zero {rs : List CircuitRecord}
    (h : ∀ r ∈ rs, r.permit.dependency = d → r.permit.generation ≠ g) : streak d g rs = 0 := by
  induction rs with
  | nil => rfl
  | cons r rs ih =>
    have hr : ¬ (r.permit.dependency = d ∧ r.permit.generation = g) := fun ⟨hd, hg⟩ =>
      h r (by simp) hd hg
    simp only [streak, hr, if_false]
    exact ih fun r' hr' => h r' (by simp [hr'])

theorem probes_cons_of_not {p : CircuitPermit} {issued : List CircuitPermit}
    (h : ¬ (p.dependency = d ∧ p.generation = g ∧ p.halfOpen)) :
    probes d g (p :: issued) = probes d g issued := by
  simp only [probes]
  rw [List.filter_cons_of_neg]
  simpa using h

theorem probes_eq_nil {issued : List CircuitPermit}
    (h : ∀ p ∈ issued, p.dependency = d → p.generation = g → p.halfOpen = false) :
    probes d g issued = [] := by
  simp only [probes, List.filter_eq_nil_iff]
  intro p hp hd
  simp only [decide_eq_true_eq] at hd
  simp [h p hp hd.1 hd.2.1] at hd

end Fits

namespace DependencyState

/-- What the state of a dependency says of the permits and outcomes of its generation. -/
structure Fits (settings : CircuitBreakerSettings T) (d : CircuitDependency)
    (issued : List CircuitPermit) (recorded : List CircuitRecord) (openedAt : Option T)
    (s : DependencyState T) : Prop where
  issued_le : ∀ p ∈ issued, p.dependency = d → p.generation ≤ s.generation
  recorded_mem : ∀ r ∈ recorded, r.permit ∈ issued
  closed : s.state = .closed →
    s.retryAt = none ∧ s.halfOpenProbeActive = false ∧
    s.consecutiveTransientFailures = streak d s.generation recorded ∧
    streak d s.generation recorded < settings.failureThreshold ∧
    ∀ p ∈ issued, p.dependency = d → p.generation = s.generation → p.halfOpen = false
  opened : s.state = .opened →
    (∃ t ∈ openedAt, s.retryAt = some (t + settings.cooldownSeconds)) ∧
    s.halfOpenProbeActive = false ∧
    ∀ p ∈ issued, p.dependency = d → p.generation < s.generation
  halfOpen : s.state = .halfOpen →
    s.retryAt.isSome ∧ s.halfOpenProbeActive = true ∧
    (∀ p ∈ issued, p.dependency = d → p.generation = s.generation → p.halfOpen) ∧
    (probes d s.generation issued).length = 1

variable {settings : CircuitBreakerSettings T} {d : CircuitDependency} {issued : List CircuitPermit}
  {recorded : List CircuitRecord} {openedAt : Option T} {s : DependencyState T}

theorem Fits.consistent (h : s.Fits settings d issued recorded openedAt) : s.consistent := by
  unfold DependencyState.consistent
  cases hs : s.state with
  | closed =>
    obtain ⟨hr, ha, -⟩ := h.closed hs
    simp [hr, ha]
  | opened =>
    obtain ⟨⟨t, -, hr⟩, ha, -⟩ := h.opened hs
    simp [hr, ha]
  | halfOpen =>
    obtain ⟨hr, ha, -⟩ := h.halfOpen hs
    simp [hr, ha]

theorem Fits.probes_le (h : s.Fits settings d issued recorded openedAt) :
    (probes d s.generation issued).length ≤ 1 := by
  cases hs : s.state with
  | closed =>
    rw [probes_eq_nil (h.closed hs).2.2.2.2]
    simp
  | opened =>
    rw [probes_eq_nil fun p hp hd hg => absurd hg (Nat.ne_of_lt ((h.opened hs).2.2 p hp hd))]
    simp
  | halfOpen => exact (h.halfOpen hs).2.2.2.le

/-! ### What a call can do -/

theorem Fits.acquire_cases (h : s.Fits settings d issued recorded openedAt) (now : T) :
    s.acquire d now = (.error (.circuitOpen d), s) ∨
    (s.state = .closed ∧ s.acquire d now = (.ok ⟨d, s.generation, false⟩, s)) ∨
    (s.state = .opened ∧ (∃ t ∈ openedAt, t + settings.cooldownSeconds ≤ now) ∧
      s.acquire d now = (.ok ⟨d, s.generation + 1, true⟩, { s with
        state := .halfOpen
        halfOpenProbeActive := true
        generation := s.generation + 1 })) := by
  unfold acquire
  cases hs : s.state with
  | closed => exact .inr (.inl ⟨rfl, rfl⟩)
  | halfOpen => exact .inl rfl
  | opened =>
    obtain ⟨⟨t, ht, hr⟩, -, -⟩ := h.opened hs
    simp only [hr, true_and]
    by_cases hn : now < t + settings.cooldownSeconds
    · rw [if_pos hn]
      exact .inl rfl
    · rw [if_neg hn]
      exact .inr (.inr ⟨⟨t, ht, not_lt.mp hn⟩, rfl⟩)

variable {permit : CircuitPermit}

/-- A permit of the present generation fits the present state: there is none while the circuit is
    open, and only a half-open one while it is half-open. -/
theorem Fits.permit_cases (h : s.Fits settings permit.dependency issued recorded openedAt)
    (hp : permit ∈ issued) :
    permit.generation < s.generation ∨
    (permit.generation = s.generation ∧
      (s.state = .closed ∧ permit.halfOpen = false ∨ s.state = .halfOpen ∧ permit.halfOpen)) := by
  rcases Nat.lt_or_eq_of_le (h.issued_le permit hp rfl) with hg | hg
  · exact .inl hg
  · refine .inr ⟨hg, ?_⟩
    cases hs : s.state with
    | closed => exact .inl ⟨rfl, (h.closed hs).2.2.2.2 permit hp rfl hg⟩
    | opened => exact absurd hg (Nat.ne_of_lt ((h.opened hs).2.2 permit hp rfl))
    | halfOpen => exact .inr ⟨rfl, (h.halfOpen hs).2.2.1 permit hp rfl hg⟩

theorem Fits.recordNonTransient_cases
    (h : s.Fits settings permit.dependency issued recorded openedAt) (hp : permit ∈ issued) :
    (permit.generation < s.generation ∧ s.recordNonTransient permit = (.ok (), s)) ∨
    (permit.generation = s.generation ∧ s.state = .closed ∧
      s.recordNonTransient permit = (.ok (), { s with consecutiveTransientFailures := 0 })) ∨
    (permit.generation = s.generation ∧ s.state = .halfOpen ∧
      s.recordNonTransient permit = (.ok (), { generation := s.generation + 1 })) := by
  unfold recordNonTransient
  rcases h.permit_cases hp with hg | ⟨hg, ⟨hs, ho⟩ | ⟨hs, ho⟩⟩
  · rw [if_pos (Nat.ne_of_lt hg)]
    exact .inl ⟨hg, rfl⟩
  · obtain ⟨hr, ha, -⟩ := h.closed hs
    rw [if_neg (by simpa using hg), if_neg (by simp [probeLost, ho]), if_neg (by simp [hs])]
    exact .inr (.inl ⟨hg, hs, by simp [ho, hs, hr, ha]⟩)
  · obtain ⟨-, ha, -⟩ := h.halfOpen hs
    rw [if_neg (by simpa using hg), if_neg (by simp [probeLost, hs, ha]), if_neg (by simp [ho])]
    exact .inr (.inr ⟨hg, hs, by simp [ho]⟩)

theorem Fits.recordTransientFailure_cases
    (h : s.Fits settings permit.dependency issued recorded openedAt) (hp : permit ∈ issued)
    (now : T) :
    (permit.generation < s.generation ∧
      s.recordTransientFailure settings now permit = (.ok (), s)) ∨
    (permit.generation = s.generation ∧ s.state = .halfOpen ∧
      s.recordTransientFailure settings now permit = (.ok (), s.open' settings now)) ∨
    (permit.generation = s.generation ∧ s.state = .closed ∧
      s.consecutiveTransientFailures + 1 < settings.failureThreshold ∧
      s.recordTransientFailure settings now permit = (.ok (),
        { s with consecutiveTransientFailures := s.consecutiveTransientFailures + 1 })) ∨
    (permit.generation = s.generation ∧ s.state = .closed ∧
      s.consecutiveTransientFailures + 1 = settings.failureThreshold ∧
      s.recordTransientFailure settings now permit = (.ok (), open' settings now
        { s with consecutiveTransientFailures := s.consecutiveTransientFailures + 1 })) := by
  unfold recordTransientFailure
  rcases h.permit_cases hp with hg | ⟨hg, ⟨hs, ho⟩ | ⟨hs, ho⟩⟩
  · rw [if_pos (Nat.ne_of_lt hg)]
    exact .inl ⟨hg, rfl⟩
  · obtain ⟨-, -, hc, hl, -⟩ := h.closed hs
    rw [if_neg (by simpa using hg), if_neg (by simp [ho]), if_neg (by simp [hs])]
    by_cases ht : settings.failureThreshold ≤ s.consecutiveTransientFailures + 1
    · rw [if_pos ht]
      exact .inr (.inr (.inr ⟨hg, hs, by omega, rfl⟩))
    · rw [if_neg ht]
      exact .inr (.inr (.inl ⟨hg, hs, by omega, rfl⟩))
  · obtain ⟨-, ha, -⟩ := h.halfOpen hs
    rw [if_neg (by simpa using hg), if_pos ho, if_neg (by simp [probeLost, hs, ha])]
    exact .inr (.inl ⟨hg, hs, rfl⟩)

/-! ### What the calls preserve -/

theorem Fits.start : Fits settings d [] [] none ({} : DependencyState T) where
  issued_le := by simp
  recorded_mem := by simp
  closed _ := ⟨rfl, rfl, rfl, settings.threshold_ok.1, by simp⟩
  opened h := by simp at h
  halfOpen h := by simp at h

/-- Calls for other dependencies. -/
theorem Fits.frame (h : s.Fits settings d issued recorded openedAt) {issued' : List CircuitPermit}
    {recorded' : List CircuitRecord}
    (hi : issued'.filter (·.dependency = d) = issued.filter (·.dependency = d))
    (hm : ∀ r ∈ recorded', r.permit ∈ issued')
    (hr : streak d s.generation recorded' = streak d s.generation recorded) :
    s.Fits settings d issued' recorded' openedAt := by
  have mem : ∀ p, p.dependency = d → (p ∈ issued' ↔ p ∈ issued) := by
    intro p hp
    have := congrArg (p ∈ ·) hi
    simpa [hp] using this
  have probes_eq : probes d s.generation issued' = probes d s.generation issued := by
    have key : ∀ ps : List CircuitPermit, probes d s.generation ps =
        (ps.filter (·.dependency = d)).filter fun p => p.generation = s.generation ∧ p.halfOpen := by
      intro ps
      rw [List.filter_filter]
      refine List.filter_congr fun p _ => ?_
      by_cases hd : p.dependency = d <;> simp [hd]
    rw [key, key, hi]
  constructor
  · exact fun p hp hd => h.issued_le p ((mem p hd).1 hp) hd
  · exact hm
  · intro hs
    obtain ⟨h1, h2, h3, h4, h5⟩ := h.closed hs
    exact ⟨h1, h2, by rw [hr, h3], by rwa [hr], fun p hp hd => h5 p ((mem p hd).1 hp) hd⟩
  · intro hs
    obtain ⟨h1, h2, h3⟩ := h.opened hs
    exact ⟨h1, h2, fun p hp hd => h3 p ((mem p hd).1 hp) hd⟩
  · intro hs
    obtain ⟨h1, h2, h3, h4⟩ := h.halfOpen hs
    exact ⟨h1, h2, fun p hp hd => h3 p ((mem p hd).1 hp) hd, by rwa [probes_eq]⟩

/-- A permit of the closed circuit. -/
theorem Fits.issue (h : s.Fits settings d issued recorded openedAt) (hs : s.state = .closed) :
    s.Fits settings d (⟨d, s.generation, false⟩ :: issued) recorded openedAt := by
  constructor
  · intro p hp hd
    rcases List.mem_cons.mp hp with rfl | hp
    · exact le_rfl
    · exact h.issued_le p hp hd
  · exact fun r hr => List.mem_cons_of_mem _ (h.recorded_mem r hr)
  · intro _
    obtain ⟨h1, h2, h3, h4, h5⟩ := h.closed hs
    refine ⟨h1, h2, h3, h4, ?_⟩
    intro p hp hd hg
    rcases List.mem_cons.mp hp with rfl | hp
    · rfl
    · exact h5 p hp hd hg
  · intro ho
    rw [hs] at ho
    simp at ho
  · intro ho
    rw [hs] at ho
    simp at ho

/-- The probe of a circuit that half-opens. -/
theorem Fits.probe (h : s.Fits settings d issued recorded openedAt) (hs : s.state = .opened) :
    Fits settings d (⟨d, s.generation + 1, true⟩ :: issued) recorded openedAt { s with
      state := .halfOpen
      halfOpenProbeActive := true
      generation := s.generation + 1 } := by
  obtain ⟨⟨t, -, hr⟩, -, hlt⟩ := h.opened hs
  constructor
  · intro p hp hd
    rcases List.mem_cons.mp hp with rfl | hp
    · exact le_rfl
    · exact (hlt p hp hd).le.trans (Nat.le_succ _)
  · exact fun r hr => List.mem_cons_of_mem _ (h.recorded_mem r hr)
  · intro ho
    simp at ho
  · intro ho
    simp at ho
  · intro _
    have older : ∀ p ∈ issued, p.dependency = d → p.generation ≠ s.generation + 1 := by
      intro p hp hd
      have := hlt p hp hd
      omega
    refine ⟨by simp [hr], rfl, ?_, ?_⟩
    · intro p hp hd hg
      rcases List.mem_cons.mp hp with rfl | hp
      · rfl
      · exact absurd hg (older p hp hd)
    · have none : probes d (s.generation + 1) issued = [] :=
        probes_eq_nil fun p hp hd hg => absurd hg (older p hp hd)
      have first : probes d (s.generation + 1) (⟨d, s.generation + 1, true⟩ :: issued) =
          ⟨d, s.generation + 1, true⟩ :: probes d (s.generation + 1) issued := by
        simp [probes]
      rw [first, none]
      rfl

/-- Recording an outcome of an older generation. -/
theorem Fits.record_stale (h : s.Fits settings permit.dependency issued recorded openedAt)
    (hp : permit ∈ issued) (hg : permit.generation < s.generation) (transient : Bool) :
    s.Fits settings permit.dependency issued (⟨permit, transient⟩ :: recorded) openedAt := by
  refine h.frame rfl ?_ ?_
  · intro r hr
    rcases List.mem_cons.mp hr with rfl | hr
    · exact hp
    · exact h.recorded_mem r hr
  · simp [streak, Nat.ne_of_lt hg]

/-- Opening from either state, with the outcome of a permit of the present generation. -/
theorem Fits.openUp (h : s.Fits settings permit.dependency issued recorded openedAt)
    (hp : permit ∈ issued) (now : T) (n : Nat) (transient : Bool) :
    (open' settings now { s with consecutiveTransientFailures := n }).Fits settings
      permit.dependency issued (⟨permit, transient⟩ :: recorded) (some now) := by
  have older : ∀ p ∈ issued, p.dependency = permit.dependency → p.generation < s.generation + 1 :=
    fun p hp hd => Nat.lt_succ_of_le (h.issued_le p hp hd)
  constructor
  · exact fun p hp hd => (older p hp hd).le
  · intro r hr
    rcases List.mem_cons.mp hr with rfl | hr
    · exact hp
    · exact h.recorded_mem r hr
  · intro ho
    simp [open'] at ho
  · exact fun _ => ⟨⟨now, rfl, rfl⟩, rfl, older⟩
  · intro ho
    simp [open'] at ho

/-- A closed circuit counts on, or from zero. -/
theorem Fits.count (h : s.Fits settings permit.dependency issued recorded openedAt)
    (hp : permit ∈ issued) (hg : permit.generation = s.generation) (hs : s.state = .closed)
    (transient : Bool)
    (hn : transient → s.consecutiveTransientFailures + 1 < settings.failureThreshold) :
    Fits settings permit.dependency issued (⟨permit, transient⟩ :: recorded) openedAt
      { s with consecutiveTransientFailures :=
          if transient then s.consecutiveTransientFailures + 1 else 0 } := by
  obtain ⟨h1, h2, h3, h4, h5⟩ := h.closed hs
  have counted : streak permit.dependency s.generation (⟨permit, transient⟩ :: recorded) =
      if transient then s.consecutiveTransientFailures + 1 else 0 := by
    simp [streak, hg, h3]
  constructor
  · exact h.issued_le
  · intro r hr
    rcases List.mem_cons.mp hr with rfl | hr
    · exact hp
    · exact h.recorded_mem r hr
  · intro _
    refine ⟨h1, h2, counted.symm, ?_, h5⟩
    rw [counted]
    cases transient with
    | true => simpa using hn rfl
    | false => exact settings.threshold_ok.1
  · intro ho
    simp [hs] at ho
  · intro ho
    simp [hs] at ho

/-- A probe that answers closes the circuit, in a new generation. -/
theorem Fits.close (h : s.Fits settings permit.dependency issued recorded openedAt)
    (hp : permit ∈ issued) (transient : Bool) :
    Fits settings permit.dependency issued (⟨permit, transient⟩ :: recorded) openedAt
      ({ generation := s.generation + 1 } : DependencyState T) := by
  have older : ∀ p ∈ issued, p.dependency = permit.dependency → p.generation ≠ s.generation + 1 :=
    fun p hp hd => Nat.ne_of_lt (Nat.lt_succ_of_le (h.issued_le p hp hd))
  have mem : ∀ r ∈ (⟨permit, transient⟩ :: recorded : List CircuitRecord), r.permit ∈ issued := by
    intro r hr
    rcases List.mem_cons.mp hr with rfl | hr
    · exact hp
    · exact h.recorded_mem r hr
  constructor
  · exact fun p hp hd => (h.issued_le p hp hd).trans (Nat.le_succ _)
  · exact mem
  · intro _
    have none := streak_eq_zero (d := permit.dependency) (g := s.generation + 1)
      fun r hr hd => older r.permit (mem r hr) hd
    exact ⟨rfl, rfl, none.symm, by rw [none]; exact settings.threshold_ok.1,
      fun p hp hd hg => absurd hg (older p hp hd)⟩
  · intro ho
    simp at ho
  · intro ho
    simp at ho

/-- What any call preserves. -/
theorem Fits.call (call : CircuitCall T)
    {r : Except CircuitError (Option CircuitPermit) × DependencyState T}
    (hr : call.section' settings s = r)
    (h : s.Fits settings call.dependency issued recorded openedAt)
    (ha : ∀ r ∈ call.record?, r.permit ∈ issued) :
    (∀ d, r.1 ≠ .error (.stateUnavailable d)) ∧
    r.2.Fits settings call.dependency
      (match r.1 with
        | .ok (some p) => p :: issued
        | _ => issued)
      (call.record?.toList ++ recorded)
      (if r.2.state = .opened ∧ s.state ≠ .opened then call.reading? else openedAt) := by
  have nonTransient : ∀ p ∈ issued, s.Fits settings p.dependency issued recorded openedAt →
      (s.recordNonTransient p).1 = .ok () ∧
      ¬ ((s.recordNonTransient p).2.state = .opened ∧ s.state ≠ .opened) ∧
      (s.recordNonTransient p).2.Fits settings p.dependency issued (⟨p, false⟩ :: recorded)
        openedAt := by
    intro p hp h
    rcases h.recordNonTransient_cases hp with ⟨hg, he⟩ | ⟨hg, hs, he⟩ | ⟨hg, hs, he⟩
    · rw [he]
      exact ⟨rfl, fun ho => ho.2 ho.1, h.record_stale hp hg false⟩
    · rw [he]
      exact ⟨rfl, by simp [hs], h.count hp hg hs false (by simp)⟩
    · rw [he]
      exact ⟨rfl, by simp, h.close hp false⟩
  cases call with
  | acquire d now =>
    have h : s.Fits settings d issued recorded openedAt := h
    rcases h.acquire_cases now with he | ⟨hs, he⟩ | ⟨hs, -, he⟩
    · simp only [CircuitCall.section', he] at hr
      subst hr
      rw [if_neg fun ho => ho.2 ho.1]
      exact ⟨by simp [Except.map], h⟩
    · simp only [CircuitCall.section', he] at hr
      subst hr
      rw [if_neg fun ho => ho.2 ho.1]
      exact ⟨by simp [Except.map], h.issue hs⟩
    · simp only [CircuitCall.section', he] at hr
      subst hr
      rw [if_neg (by simp)]
      exact ⟨by simp [Except.map], h.probe hs⟩
  | success p =>
    obtain ⟨he, hn, hf⟩ := nonTransient p (ha _ rfl) h
    simp only [CircuitCall.section', he] at hr
    subst hr
    rw [if_neg hn]
    exact ⟨by simp [Except.map], hf⟩
  | permanentOutcome p =>
    obtain ⟨he, hn, hf⟩ := nonTransient p (ha _ rfl) h
    simp only [CircuitCall.section', he] at hr
    subst hr
    rw [if_neg hn]
    exact ⟨by simp [Except.map], hf⟩
  | transientFailure p now =>
    have hp : p ∈ issued := ha _ rfl
    have h : s.Fits settings p.dependency issued recorded openedAt := h
    rcases h.recordTransientFailure_cases hp now with
      ⟨hg, he⟩ | ⟨hg, hs, he⟩ | ⟨hg, hs, hn, he⟩ | ⟨hg, hs, hn, he⟩
    · simp only [CircuitCall.section', he] at hr
      subst hr
      rw [if_neg fun ho => ho.2 ho.1]
      exact ⟨by simp [Except.map], h.record_stale hp hg true⟩
    · simp only [CircuitCall.section', he] at hr
      subst hr
      rw [if_pos ⟨rfl, by simp [hs]⟩]
      exact ⟨by simp [Except.map], h.openUp hp now s.consecutiveTransientFailures true⟩
    · simp only [CircuitCall.section', he] at hr
      subst hr
      rw [if_neg (by simp [hs])]
      exact ⟨by simp [Except.map], h.count hp hg hs true fun _ => hn⟩
    · simp only [CircuitCall.section', he] at hr
      subst hr
      rw [if_pos ⟨rfl, by simp [hs]⟩]
      exact ⟨by simp [Except.map], h.openUp hp now (s.consecutiveTransientFailures + 1) true⟩

end DependencyState

namespace Circuit

variable {settings : CircuitBreakerSettings T} {c : Circuit T} {call : CircuitCall T}

/-- **The invariant**: every dependency's state fits the permits and the outcomes. -/
structure Fits (settings : CircuitBreakerSettings T) (c : Circuit T) : Prop where
  settings_eq : c.breaker.settings = settings
  fits : ∀ d, (c.stateOf d).Fits settings d c.issued c.recorded (c.openedAt d)

theorem Fits.perform (h : c.Fits settings) (call : CircuitCall T) :
    c.perform call = ((call.section' settings (c.stateOf call.dependency)).1,
      c.breaker.set call.dependency (call.section' settings (c.stateOf call.dependency)).2) := by
  have consistent : ∀ d, (c.stateOf d).consistent := fun d => (h.fits d).consistent
  rw [← h.settings_eq]
  cases call <;>
    simp only [Circuit.perform, DependencyCircuitBreaker.acquire,
      DependencyCircuitBreaker.recordSuccess, DependencyCircuitBreaker.recordPermanentOutcome,
      DependencyCircuitBreaker.recordTransientFailure,
      DependencyCircuitBreaker.withState_of_consistent (consistent _)] <;>
    rfl

theorem Fits.stateOf_after_self (h : c.Fits settings) :
    (c.after call).stateOf call.dependency =
      (call.section' settings (c.stateOf call.dependency)).2 := by
  simp [Circuit.stateOf, after, h.perform]

theorem Fits.stateOf_after_of_ne (h : c.Fits settings) {d : CircuitDependency}
    (hd : d ≠ call.dependency) : (c.after call).stateOf d = c.stateOf d := by
  simp only [Circuit.stateOf, after, h.perform]
  exact DependencyCircuitBreaker.stateOf_set_of_ne hd

theorem dependency_of_granted {s : DependencyState T} {p : CircuitPermit}
    (h : (call.section' settings s).1 = .ok (some p)) :
    ∃ now, call = .acquire p.dependency now ∧ (s.acquire p.dependency now).1 = .ok p := by
  have never : ∀ r : Except CircuitError Unit, (r.map fun _ => none) ≠ .ok (some p) := by
    intro r
    cases r <;> simp [Except.map]
  cases call with
  | acquire d now =>
    have hd : p.dependency = d ∧ (s.acquire d now).1 = .ok p := by
      simp only [CircuitCall.section'] at h
      cases he : (s.acquire d now).1 with
      | error e =>
        rw [he] at h
        simp [Except.map] at h
      | ok q =>
        rw [he] at h
        obtain rfl : q = p := by simpa [Except.map] using h
        refine ⟨?_, rfl⟩
        unfold DependencyState.acquire at he
        split at he
        · exact (congrArg CircuitPermit.dependency (Except.ok.inj he)).symm
        · split at he
          · simp at he
          · split at he
            · simp at he
            · exact (congrArg CircuitPermit.dependency (Except.ok.inj he)).symm
        · simp at he
    exact ⟨now, by rw [hd.1], by rw [hd.1]; exact hd.2⟩
  | success q => exact absurd h (never _)
  | permanentOutcome q => exact absurd h (never _)
  | transientFailure q now => exact absurd h (never _)

omit [LinearOrder T] [NatCast T] [Add T] in
theorem record_dependency : ∀ r ∈ call.record?, r.permit.dependency = call.dependency := by
  intro r hr
  cases call with
  | acquire d now => simp [CircuitCall.record?] at hr
  | success p | permanentOutcome p | transientFailure p now =>
    obtain rfl : _ = r := by simpa [CircuitCall.record?] using hr
    rfl

/-- The run invariant: no call breaks it. -/
theorem Fits.after (h : c.Fits settings) (ha : c.Allows call) : (c.after call).Fits settings := by
  obtain ⟨-, own⟩ := (h.fits call.dependency).call call rfl ha
  have own : ((c.after call).stateOf call.dependency).Fits settings call.dependency
      (c.after call).issued (c.after call).recorded ((c.after call).openedAt call.dependency) := by
    rw [h.stateOf_after_self]
    simpa only [Circuit.after, h.perform, DependencyCircuitBreaker.stateOf_set_self] using own
  constructor
  · simp only [Circuit.after, h.perform]
    exact h.settings_eq
  · intro d
    by_cases hd : d = call.dependency
    · subst hd
      exact own
    · rw [h.stateOf_after_of_ne hd]
      have still : (c.after call).openedAt d = c.openedAt d := by
        simp only [Circuit.after, h.perform]
        rw [DependencyCircuitBreaker.stateOf_set_of_ne hd, if_neg fun ho => ho.2 ho.1]
      rw [still]
      refine (h.fits d).frame ?_ own.recorded_mem ?_
      · simp only [Circuit.after, h.perform]
        split
        · next p hp =>
          obtain ⟨now, rfl, -⟩ := dependency_of_granted hp
          have hd : p.dependency ≠ d := Ne.symm hd
          rw [List.filter_cons_of_neg]
          simpa using hd
        · rfl
      · exact streak_append_none fun r hr ho => hd (ho.1.symm.trans (record_dependency r hr))

theorem Reachable.fits (h : Reachable settings c) : c.Fits settings := by
  induction h with
  | start => exact ⟨rfl, fun d => .start⟩
  | call _ ha ih => exact ih.after ha

/-- An outcome of an older generation. -/
theorem section'_stale {s : DependencyState T} {r : CircuitRecord} (hr : r ∈ call.record?)
    (hg : r.permit.generation < s.generation) : (call.section' settings s).2 = s := by
  have hg := Nat.ne_of_lt hg
  cases call with
  | acquire d now => simp [CircuitCall.record?] at hr
  | success p | permanentOutcome p =>
    obtain rfl : _ = r := by simpa [CircuitCall.record?] using hr
    simp only [CircuitCall.section', DependencyState.recordNonTransient]
    rw [if_pos hg]
  | transientFailure p now =>
    obtain rfl : _ = r := by simpa [CircuitCall.record?] using hr
    simp only [CircuitCall.section', DependencyState.recordTransientFailure]
    rw [if_pos hg]

/-- A call on a closed circuit leaves it closed in its generation, or completes the streak. -/
theorem Fits.of_closed (h : c.Fits settings) (ha : c.Allows call) {d : CircuitDependency}
    (hs : (c.stateOf d).state = .closed) :
    (((c.after call).stateOf d).state = .closed ∧ (c.after call).generation d = c.generation d) ∨
    (((c.after call).stateOf d).state = .opened ∧
      streak d (c.generation d) (c.after call).recorded = settings.failureThreshold) := by
  by_cases hd : d = call.dependency
  · subst hd
    have fits := h.fits call.dependency
    simp only [generation, h.stateOf_after_self]
    have nonTransient : ∀ p ∈ c.issued, p.dependency = call.dependency →
        ((c.stateOf call.dependency).recordNonTransient p).2.state = .closed ∧
        ((c.stateOf call.dependency).recordNonTransient p).2.generation =
          c.generation call.dependency := by
      intro p hp hd
      rw [← hd] at fits hs ⊢
      rcases fits.recordNonTransient_cases hp with ⟨-, he⟩ | ⟨-, -, he⟩ | ⟨-, ho, -⟩
      · rw [he]
        exact ⟨hs, rfl⟩
      · rw [he]
        exact ⟨hs, rfl⟩
      · rw [hs] at ho
        simp at ho
    cases call with
    | acquire d now =>
      rcases fits.acquire_cases now with he | ⟨-, he⟩ | ⟨ho, -⟩
      · left
        simp only [CircuitCall.section', CircuitCall.dependency] at he ⊢
        rw [he]
        exact ⟨hs, rfl⟩
      · left
        simp only [CircuitCall.section', CircuitCall.dependency] at he ⊢
        rw [he]
        exact ⟨hs, rfl⟩
      · rw [hs] at ho
        simp at ho
    | success p => exact .inl (nonTransient p (ha _ rfl) rfl)
    | permanentOutcome p => exact .inl (nonTransient p (ha _ rfl) rfl)
    | transientFailure p now =>
      have fits : (c.stateOf p.dependency).Fits settings p.dependency c.issued c.recorded
        (c.openedAt p.dependency) := fits
      have hs : (c.stateOf p.dependency).state = .closed := hs
      simp only [CircuitCall.section', CircuitCall.dependency]
      rcases fits.recordTransientFailure_cases (ha _ rfl) now with
        ⟨-, he⟩ | ⟨-, ho, -⟩ | ⟨-, -, -, he⟩ | ⟨hg, -, hn, he⟩
      · rw [he]
        exact .inl ⟨hs, rfl⟩
      · rw [hs] at ho
        simp at ho
      · rw [he]
        exact .inl ⟨hs, rfl⟩
      · rw [he]
        obtain ⟨-, -, hc, -⟩ := fits.closed hs
        refine .inr ⟨rfl, ?_⟩
        show streak p.dependency (c.generation p.dependency) (⟨p, true⟩ :: c.recorded) = _
        simp only [streak, hg, and_self, if_true]
        rw [← hn, hc]
  · have same := h.stateOf_after_of_ne hd
    exact .inl ⟨by rw [same, hs], by rw [generation, generation, same]⟩

/-- No call counts a generation down. -/
theorem Fits.generation_le (h : c.Fits settings) (ha : c.Allows call) (d : CircuitDependency) :
    c.generation d ≤ (c.after call).generation d := by
  by_cases hd : d = call.dependency
  · subst hd
    have nonTransient : ∀ p ∈ c.issued, p.dependency = call.dependency →
        c.generation call.dependency ≤
          ((c.stateOf call.dependency).recordNonTransient p).2.generation := by
      intro p hp hd
      have fits := h.fits call.dependency
      rw [← hd] at fits ⊢
      rcases fits.recordNonTransient_cases hp with ⟨-, he⟩ | ⟨-, -, he⟩ | ⟨-, -, he⟩
      · rw [he]
      · rw [he]
      · rw [he]
        exact Nat.le_succ _
    show _ ≤ ((c.after call).stateOf call.dependency).generation
    rw [h.stateOf_after_self]
    cases call with
    | acquire d now =>
      have fits := h.fits d
      rcases fits.acquire_cases now with he | ⟨-, he⟩ | ⟨-, -, he⟩
      · simp only [CircuitCall.section', CircuitCall.dependency, he]
        exact le_rfl
      · simp only [CircuitCall.section', CircuitCall.dependency, he]
        exact le_rfl
      · simp only [CircuitCall.section', CircuitCall.dependency, he]
        exact Nat.le_succ _
    | success p => exact nonTransient p (ha _ rfl) rfl
    | permanentOutcome p => exact nonTransient p (ha _ rfl) rfl
    | transientFailure p now =>
      have fits := h.fits p.dependency
      rcases fits.recordTransientFailure_cases (ha _ rfl) now with
        ⟨-, he⟩ | ⟨-, -, he⟩ | ⟨-, -, -, he⟩ | ⟨-, -, -, he⟩
      · simp only [CircuitCall.section', CircuitCall.dependency, he]
        exact le_rfl
      · simp only [CircuitCall.section', CircuitCall.dependency, he]
        exact Nat.le_succ _
      · simp only [CircuitCall.section', CircuitCall.dependency, he]
        exact le_rfl
      · simp only [CircuitCall.section', CircuitCall.dependency, he]
        exact Nat.le_succ _
  · show (c.stateOf d).generation ≤ ((c.after call).stateOf d).generation
    rw [h.stateOf_after_of_ne hd]

/-- An outcome of a permit that was issued is taken, whatever has become of the circuit since. -/
theorem Fits.perform_record (h : c.Fits settings) (ha : c.Allows call) {r : CircuitRecord}
    (hr : r ∈ call.record?) : (c.perform call).1 = .ok none := by
  have nonTransient : ∀ p ∈ c.issued,
      ((c.stateOf p.dependency).recordNonTransient p).1 = .ok () := by
    intro p hp
    rcases (h.fits p.dependency).recordNonTransient_cases hp with ⟨-, he⟩ | ⟨-, -, he⟩ | ⟨-, -, he⟩
    · rw [he]
    · rw [he]
    · rw [he]
  rw [h.perform]
  cases call with
  | acquire d now => simp [CircuitCall.record?] at hr
  | success p | permanentOutcome p =>
    have he := nonTransient p (ha _ rfl)
    show Except.map _ _ = _
    simp only [CircuitCall.dependency, he]
    rfl
  | transientFailure p now =>
    have he : ((c.stateOf p.dependency).recordTransientFailure settings now p).1 = .ok () := by
      rcases (h.fits p.dependency).recordTransientFailure_cases (ha _ rfl) now with
        ⟨-, he⟩ | ⟨-, -, he⟩ | ⟨-, -, -, he⟩ | ⟨-, -, -, he⟩
      · rw [he]
      · rw [he]
      · rw [he]
      · rw [he]
    show Except.map _ _ = _
    simp only [CircuitCall.dependency, he]
    rfl

/-- With an outcome of a probe, its generation is over. -/
theorem Fits.generation_lt (h : c.Fits settings) (ha : c.Allows call) {r : CircuitRecord}
    (hr : r ∈ call.record?) (hp : r.permit.halfOpen) :
    r.permit.generation < (c.after call).generation r.permit.dependency := by
  have hm := ha r hr
  rcases (h.fits r.permit.dependency).permit_cases hm with hg | ⟨hg, ⟨-, ho⟩ | ⟨hs, -⟩⟩
  · exact Nat.lt_of_lt_of_le hg (h.generation_le ha _)
  · rw [ho] at hp
    exact absurd hp (by decide)
  · rw [hg, record_dependency r hr]
    show _ < ((c.after call).stateOf call.dependency).generation
    rw [h.stateOf_after_self]
    have open' : ∀ {P : Prop}, (c.stateOf r.permit.dependency).state = .closed → P := by
      intro P hc
      rw [hs] at hc
      simp at hc
    cases call with
    | acquire d now => simp [CircuitCall.record?] at hr
    | success p | permanentOutcome p =>
      obtain rfl : _ = r := by simpa [CircuitCall.record?] using hr
      rcases (h.fits p.dependency).recordNonTransient_cases hm with ⟨hl, -⟩ | ⟨-, hc, -⟩ | ⟨-, -, he⟩
      · exact absurd hg (Nat.ne_of_lt hl)
      · exact open' hc
      · simp only [CircuitCall.section', CircuitCall.dependency, he]
        exact Nat.lt_succ_self _
    | transientFailure p now =>
      obtain rfl : _ = r := by simpa [CircuitCall.record?] using hr
      rcases (h.fits p.dependency).recordTransientFailure_cases hm now with
        ⟨hl, -⟩ | ⟨-, -, he⟩ | ⟨-, hc, -⟩ | ⟨-, hc, -⟩
      · exact absurd hg (Nat.ne_of_lt hl)
      · simp only [CircuitCall.section', CircuitCall.dependency, he]
        exact Nat.lt_succ_self _
      · exact open' hc
      · exact open' hc

/-- **Circuit breaker correctness**, before any call of any run: the state is never found
    unavailable; a generation has at most one probe; the outcome of an older generation changes
    nothing; an open circuit grants nothing before its cooldown is over; and a closed circuit opens
    with the call that completes a streak of transient failures of its generation, and only then. -/
theorem circuit_correct (h : Reachable settings c) (ha : c.Allows call) :
    (∀ d, (c.perform call).1 ≠ .error (.stateUnavailable d)) ∧
    (∀ d, (probes d (c.generation d) c.issued).length ≤ 1) ∧
    (∀ r ∈ call.record?, r.permit.generation < c.generation r.permit.dependency →
      ∀ d, (c.after call).stateOf d = c.stateOf d) ∧
    (∀ p, (c.perform call).1 = .ok (some p) → (c.stateOf p.dependency).state = .opened →
      ∃ t ∈ c.openedAt p.dependency, ∃ now ∈ call.reading?, t + settings.cooldownSeconds ≤ now) ∧
    (∀ d, (c.stateOf d).state = .closed →
      (((c.after call).stateOf d).state = .opened ↔
        streak d (c.generation d) (c.after call).recorded = settings.failureThreshold)) := by
  have fits := h.fits
  refine ⟨?_, fun d => (fits.fits d).probes_le, ?_, ?_, ?_⟩
  · intro d
    rw [fits.perform]
    exact ((fits.fits call.dependency).call call rfl ha).1 d
  · intro r hr hg d
    by_cases hd : d = call.dependency
    · subst hd
      rw [record_dependency r hr] at hg
      rw [fits.stateOf_after_self]
      exact section'_stale hr hg
    · exact fits.stateOf_after_of_ne hd
  · intro p hp ho
    rw [fits.perform] at hp
    obtain ⟨now, rfl, hg⟩ := dependency_of_granted hp
    rcases (fits.fits p.dependency).acquire_cases now with he | ⟨hs, he⟩ | ⟨hs, ⟨t, ht, hn⟩, he⟩
    · simp only [CircuitCall.dependency, he] at hg
      simp at hg
    · rw [hs] at ho
      simp at ho
    · exact ⟨t, ht, now, rfl, hn⟩
  · intro d hs
    rcases fits.of_closed ha hs with ⟨hc, hg⟩ | ⟨ho, hn⟩
    · obtain ⟨-, -, -, hl, -⟩ := ((fits.after ha).fits d).closed hc
      rw [← hg, hc]
      exact iff_of_false (by simp) (Nat.ne_of_lt hl)
    · exact iff_of_true ho hn

/-- At threshold one, the first failure opens the circuit. -/
def sampleSettings : CircuitBreakerSettings Nat := ⟨1, 30, by decide, by decide⟩

def sample : Circuit Nat :=
  ({ breaker := { settings := sampleSettings } } : Circuit Nat).after (.acquire .ec2Read 1)

theorem circuit_correct_sample :
    ((sample.after (.transientFailure ⟨.ec2Read, 0, false⟩ 2)).stateOf .ec2Read).state = .opened := by
  have reached : Reachable sampleSettings sample :=
    .call .start fun r hr => by simp [CircuitCall.record?] at hr
  have allowed : sample.Allows (.transientFailure ⟨.ec2Read, 0, false⟩ 2) := by
    intro r hr
    obtain rfl : _ = r := by simpa [CircuitCall.record?] using hr
    exact List.mem_singleton_self _
  obtain ⟨-, -, -, -, opens⟩ := circuit_correct reached allowed
  exact (opens .ec2Read rfl).2 rfl

end Circuit

end CloudOpsAgent
