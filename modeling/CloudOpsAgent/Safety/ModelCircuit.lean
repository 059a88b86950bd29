/-
  `CircuitBoundedModel`: a one-attempt model proxy bound to the process-local dependency circuit.

  `stream` and `structured_output` are async generators with one body, over two methods of the
  delegate.  The body suspends at two places, and is resumed from outside at both:

      created ─ first asend ─→ awaiting the delegate ─ event ─→ suspended at `yield`
                                │      ↑───────────── asend ───────────┘ │
                                │ end, or raises                         │ athrow, aclose
                                └────────────→ finished ←────────────────┘

  A task that is cancelled while the delegate is awaited is one whose delegate raises: the delegate
  passes `CancelledError` on, or makes of it what it likes.  `aclose` throws `GeneratorExit`.

  1. **The generator** — one step for each resumption, and its exit (`leave`).

  2. **Runs** — any resumptions, on a breaker that others use meanwhile.

  3. **Accounting** — one outcome for each permit, always; the right one if and only if the body is
     left by its normal end or by an `Exception` that can be classified and timed
     (`model_circuit_iff`).
-/
import CloudOpsAgent.Safety.Retry

namespace CloudOpsAgent

variable {T : Type} [LinearOrder T] [NatCast T] [Add T]

/-! ## The generator -/

/-- The methods of the delegate that are wrapped. -/
inductive ModelMethod where
  | stream | structuredOutput
  deriving DecidableEq

/-- How the `try` block is left: by the end of the delegate's stream, or by an exception, of the
    delegate or thrown in at the `yield`. -/
inductive BodyExit where
  | ran
  | raised (error : ReadError)

/-- A generator; a finished one keeps the outcomes it recorded, the latest first. -/
inductive StreamState where
  | created
  /-- `acquire` raised. -/
  | refused
  | awaiting (permit : CircuitPermit)
  | suspended (permit : CircuitPermit)
  | finished (permit : CircuitPermit) (recorded : List PermitOutcome)
    (result : Except RetryError Unit)

/-- A resumption, with what the clock would read in the calls on the breaker that follow: `none` if
    it raises, or reads no finite number. -/
inductive StreamInput (T : Type) where
  | start (reading : Option T)
  | event (method : ModelMethod)
  | next
  | exit (method : ModelMethod) (exit : BodyExit) (reading : Option T)
  | thrown (error : ReadError) (reading : Option T)

namespace CircuitBoundedModel

/-- Record an outcome: the clock is read before anything is counted. -/
def record (c : Circuit T) (permit : CircuitPermit) (outcome : PermitOutcome) (reading : Option T) :
    Except RetryError Unit × Circuit T :=
  let made (call : CircuitCall T) : Except RetryError Unit × Circuit T :=
    ((c.perform call).1.mapError .circuit |>.map fun _ => (), c.after call)
  match outcome, reading with
  | .success, _ => made (.success permit)
  | .permanent, _ => made (.permanentOutcome permit)
  | .transientFailure, some now => made (.transientFailure permit now)
  | .transientFailure, none => (.error (.circuit (.stateUnavailable permit.dependency)), c)

/-- The outcome `_record_failure` decides on. -/
def failureOutcome (error : ReadError) : Except RetryError PermitOutcome :=
  if error.isinstance .modelThrottledException then .ok .transientFailure
  else match isKnownTransientReadError error with
    | none => .error .unclassified
    | some true => .ok .transientFailure
    | some false => .ok .permanent

/-- `_record_failure`, with the outcomes it has recorded. -/
def recordFailure (c : Circuit T) (permit : CircuitPermit) (error : ReadError)
    (reading : Option T) : Except RetryError Unit × List PermitOutcome × Circuit T :=
  match failureOutcome error with
  | .error e => (.error e, [], c)
  | .ok outcome => match record c permit outcome reading with
    | (.error e, c') => (.error e, [], c')
    | (.ok (), c') => (.ok (), [outcome], c')

/-- The `finally` block with `recorded` not set: whatever is raised on the way out stays raised. -/
def finally' (c : Circuit T) (permit : CircuitPermit) (recorded : List PermitOutcome)
    (result : Except RetryError Unit) (reading : Option T) : StreamState × Circuit T :=
  match record c permit .success reading with
  | (.error e, c') => (.finished permit recorded (.error e), c')
  | (.ok (), c') => (.finished permit (.success :: recorded) result, c')

/-- The `except` and `finally` blocks. -/
def leave (c : Circuit T) (permit : CircuitPermit) (exit : BodyExit) (reading : Option T) :
    StreamState × Circuit T :=
  match exit with
  | .ran => finally' c permit [] (.ok ()) reading
  | .raised error =>
    if error.isinstance .exception then
      match recordFailure c permit error reading with
      | (.ok (), recorded, c') => (.finished permit recorded (.error (.raised error)), c')
      | (.error e, recorded, c') => finally' c' permit recorded (.error e) reading
    else finally' c permit [] (.error (.raised error)) reading

/-- The body of both generators, one resumption at a time. -/
def resume (method : ModelMethod) (c : Circuit T) (g : StreamState) (i : StreamInput T) :
    Option (StreamState × Circuit T) :=
  match g, i with
  | .created, .start none => some (.refused, c)
  | .created, .start (some now) =>
    let call := .acquire .bedrockModel now
    match (c.perform call).1 with
    | .ok (some permit) => some (.awaiting permit, c.after call)
    | _ => some (.refused, c.after call)
  | .awaiting permit, .event m => if m = method then some (.suspended permit, c) else none
  | .awaiting permit, .exit m exit reading =>
    if m = method then some (leave c permit exit reading) else none
  | .suspended permit, .next => some (.awaiting permit, c)
  | .suspended permit, .thrown error reading => some (leave c permit (.raised error) reading)
  | _, _ => none

def stream : Circuit T → StreamState → StreamInput T → Option (StreamState × Circuit T) :=
  resume .stream

def structuredOutput : Circuit T → StreamState → StreamInput T → Option (StreamState × Circuit T) :=
  resume .structuredOutput

/-! ## Runs -/

/-- Any resumptions of one generator, the latest first, on a breaker that others use meanwhile. -/
inductive Run (settings : CircuitBreakerSettings T) (method : ModelMethod) :
    Circuit T → StreamState → List (StreamInput T) → Prop
  | start {c : Circuit T} (hc : Circuit.Reachable settings c) : Run settings method c .created []
  | other {c : Circuit T} {g : StreamState} {l : List (StreamInput T)} {call : CircuitCall T}
    (h : Run settings method c g l) (ha : c.Allows call) : Run settings method (c.after call) g l
  | resume {c c' : Circuit T} {g g' : StreamState} {l : List (StreamInput T)} {i : StreamInput T}
    (h : Run settings method c g l) (hr : resume method c g i = some (g', c')) :
    Run settings method c' g' (i :: l)

/-- How a resumption makes the body leave, with the clock from then on. -/
def exit? : StreamInput T → Option (BodyExit × Option T)
  | .exit _ exit reading => some (exit, reading)
  | .thrown error reading => some (.raised error, reading)
  | _ => none

/-- The delegate's stream ran to its normal end. -/
def RanToEnd (l : List (StreamInput T)) : Prop := ∃ i ∈ l, ∃ reading, exit? i = some (.ran, reading)

/-- An exit whose outcome the `except` block can record: an `Exception` that can be classified, and,
    where it counts as a transient failure, timed. -/
def Recordable (i : StreamInput T) : Prop :=
  ∀ error reading, exit? i = some (.raised error, reading) → error.isinstance .exception ∧
    ∃ o, failureOutcome error = .ok o ∧ (o = .transientFailure → reading.isSome)

/-! ## Accounting -/

variable {settings : CircuitBreakerSettings T} {method : ModelMethod} {c c' : Circuit T}
  {permit : CircuitPermit} {exit : BodyExit} {reading : Option T}

/-- An outcome is recorded, unless it needs a clock that cannot be read. -/
theorem record_cases (hc : Circuit.Reachable settings c) (hp : permit ∈ c.issued)
    (outcome : PermitOutcome) (reading : Option T) :
    (∃ c', record c permit outcome reading = (.ok (), c') ∧ Circuit.Reachable settings c' ∧
      (outcome = .transientFailure → reading.isSome)) ∨
    (outcome = .transientFailure ∧ reading = none ∧
      ∃ e, record c permit outcome reading = (.error e, c)) := by
  have made : ∀ (call : CircuitCall T) {r : CircuitRecord}, r ∈ call.record? → r.permit = permit →
      ((c.perform call).1.mapError RetryError.circuit |>.map fun _ => ()) = .ok () ∧
        Circuit.Reachable settings (c.after call) := by
    intro call r hr hpermit
    have ha : c.Allows call := by
      intro r' hr'
      obtain rfl := Option.mem_unique hr hr'
      rw [hpermit]
      exact hp
    rw [hc.fits.perform_record ha hr]
    exact ⟨rfl, hc.call ha⟩
  cases outcome with
  | success =>
    obtain ⟨hok, hc'⟩ := made (.success permit) rfl rfl
    exact .inl ⟨_, Prod.ext hok rfl, hc', fun h => by simp at h⟩
  | permanent =>
    obtain ⟨hok, hc'⟩ := made (.permanentOutcome permit) rfl rfl
    exact .inl ⟨_, Prod.ext hok rfl, hc', fun h => by simp at h⟩
  | transientFailure =>
    cases reading with
    | none => exact .inr ⟨rfl, rfl, _, rfl⟩
    | some now =>
      obtain ⟨hok, hc'⟩ := made (.transientFailure permit now) rfl rfl
      exact .inl ⟨_, Prod.ext hok rfl, hc', fun _ => rfl⟩

theorem failureOutcome_ne {error : ReadError} : failureOutcome error ≠ .ok .success := by
  unfold failureOutcome
  split
  · simp
  · split <;> simp

theorem finally'_spec (hc : Circuit.Reachable settings c) (hp : permit ∈ c.issued)
    (recorded : List PermitOutcome) (result : Except RetryError Unit) (reading : Option T) :
    ∃ c', finally' c permit recorded result reading =
        (.finished permit (.success :: recorded) result, c') ∧
      Circuit.Reachable settings c' := by
  rcases record_cases hc hp .success reading with ⟨c', hr, hc', -⟩ | ⟨h, -⟩
  · exact ⟨c', by rw [finally', hr], hc'⟩
  · simp at h

/-- The exit: one outcome, and success exactly when the `except` block has none to record. -/
theorem leave_spec (hc : Circuit.Reachable settings c) (hp : permit ∈ c.issued)
    (exit : BodyExit) (reading : Option T) :
    ∃ outcome result c', leave c permit exit reading = (.finished permit [outcome] result, c') ∧
      Circuit.Reachable settings c' ∧
      (outcome ≠ .success ↔ ∃ error, exit = .raised error ∧ error.isinstance .exception ∧
        ∃ o, failureOutcome error = .ok o ∧ (o = .transientFailure → reading.isSome)) := by
  cases exit with
  | ran =>
    obtain ⟨c', he, hc'⟩ := finally'_spec hc hp [] (.ok ()) reading
    exact ⟨_, _, c', he, hc', by simp⟩
  | raised error =>
    by_cases hexc : error.isinstance .exception
    · cases ho : failureOutcome error with
      | error e =>
        obtain ⟨c', he, hc'⟩ := finally'_spec hc hp [] (.error e) reading
        refine ⟨.success, .error e, c', ?_, hc', by simp [ho]⟩
        simp only [leave, hexc, if_true, recordFailure, ho]
        exact he
      | ok o =>
        rcases record_cases hc hp o reading with ⟨c', hr, hc', ht⟩ | ⟨rfl, rfl, e, hr⟩
        · refine ⟨o, .error (.raised error), c', ?_, hc', ?_⟩
          · simp only [leave, hexc, if_true, recordFailure, ho, hr]
          · refine iff_of_true ?_ ⟨error, rfl, hexc, o, ho, ht⟩
            rintro rfl
            exact failureOutcome_ne ho
        · obtain ⟨c', he, hc'⟩ := finally'_spec hc hp [] (.error e) none
          refine ⟨.success, .error e, c', ?_, hc', by simp [ho]⟩
          simp only [leave, hexc, if_true, recordFailure, ho, hr]
          exact he
    · obtain ⟨c', he, hc'⟩ := finally'_spec hc hp [] (.error (.raised error)) reading
      refine ⟨.success, .error (.raised error), c', ?_, hc', by simp [hexc]⟩
      rw [leave, if_neg hexc]
      exact he

/-- **The invariant** of a run. -/
def Accounted (c : Circuit T) (g : StreamState) (l : List (StreamInput T)) : Prop :=
  match g with
  | .created | .refused => ∀ i ∈ l, exit? i = none
  | .awaiting p | .suspended p => p ∈ c.issued ∧ ∀ i ∈ l, exit? i = none
  | .finished _ recorded _ => ∃ outcome, recorded = [outcome] ∧
      ((outcome = .success → RanToEnd l) ↔ ∀ i ∈ l, Recordable i)

omit [NatCast T] [Add T] [LinearOrder T] in
theorem recordable_of_none {i : StreamInput T} (h : exit? i = none) : Recordable i := by
  intro error reading he
  rw [h] at he
  simp at he

/-- The step that leaves the body. -/
theorem accounted_leave {i : StreamInput T} {l : List (StreamInput T)} {g' : StreamState}
    (hc : Circuit.Reachable settings c) (hp : permit ∈ c.issued) (hl : ∀ i ∈ l, exit? i = none)
    (hi : exit? i = some (exit, reading)) (hr : leave c permit exit reading = (g', c')) :
    Circuit.Reachable settings c' ∧ Accounted c' g' (i :: l) := by
  obtain ⟨outcome, result, c₁, he, hc₁, ho⟩ := leave_spec hc hp exit reading
  obtain ⟨rfl, rfl⟩ := Prod.mk.inj (hr.symm.trans he)
  refine ⟨hc₁, outcome, rfl, ?_⟩
  have ran : RanToEnd (i :: l) ↔ exit = .ran := by
    constructor
    · rintro ⟨j, hj, r, hr⟩
      rcases List.mem_cons.mp hj with rfl | hj
      · rw [hi] at hr
        simp only [Option.some.injEq, Prod.mk.injEq] at hr
        exact hr.1
      · rw [hl j hj] at hr
        simp at hr
    · rintro rfl
      exact ⟨i, List.mem_cons_self .., reading, hi⟩
  have recordable : (∀ j ∈ i :: l, Recordable j) ↔ Recordable i := by
    rw [List.forall_mem_cons]
    exact and_iff_left fun j hj => recordable_of_none (hl j hj)
  rw [ran, recordable]
  cases exit with
  | ran =>
    refine iff_of_true (fun _ => rfl) ?_
    intro error r hr
    rw [hi] at hr
    simp at hr
  | raised error =>
    have own : Recordable i ↔ error.isinstance .exception ∧
        ∃ o, failureOutcome error = .ok o ∧ (o = .transientFailure → reading.isSome) := by
      constructor
      · exact fun h => h error reading hi
      · intro h error' r hr
        rw [hi] at hr
        simp only [Option.some.injEq, Prod.mk.injEq, BodyExit.raised.injEq] at hr
        obtain ⟨rfl, rfl⟩ := hr
        exact h
    rw [own]
    constructor
    · intro h
      obtain ⟨error', he', hspec⟩ := ho.1 fun hs => by simpa using h hs
      obtain rfl := BodyExit.raised.inj he'
      exact hspec
    · intro h hs
      exact absurd hs (ho.2 ⟨error, rfl, h⟩)

/-- What a resumption can do: ask for the permit, go on, or leave. -/
theorem resume_cases {g g' : StreamState} {i : StreamInput T}
    (h : resume method c g i = some (g', c')) :
    (g = .created ∧ exit? i = none ∧ (g' = .refused ∧ c' = c ∨
      ∃ now, c' = c.after (.acquire .bedrockModel now) ∧
        (g' = .refused ∨ ∃ p, g' = .awaiting p ∧ p ∈ c'.issued))) ∨
    (∃ p, (g = .awaiting p ∨ g = .suspended p) ∧ exit? i = none ∧ c' = c ∧
      (g' = .awaiting p ∨ g' = .suspended p)) ∨
    (∃ p exit reading, (g = .awaiting p ∨ g = .suspended p) ∧ exit? i = some (exit, reading) ∧
      leave c p exit reading = (g', c')) := by
  unfold resume at h
  split at h
  · obtain ⟨rfl, rfl⟩ := Prod.mk.inj (Option.some.inj h)
    exact .inl ⟨rfl, rfl, .inl ⟨rfl, rfl⟩⟩
  · next now =>
    refine .inl ⟨rfl, rfl, .inr ⟨now, ?_⟩⟩
    dsimp only at h
    split at h
    · next p hp =>
      obtain ⟨rfl, rfl⟩ := Prod.mk.inj (Option.some.inj h)
      refine ⟨rfl, .inr ⟨p, rfl, ?_⟩⟩
      simp [Circuit.after, hp]
    · obtain ⟨rfl, rfl⟩ := Prod.mk.inj (Option.some.inj h)
      exact ⟨rfl, .inl rfl⟩
  · next p m =>
    split at h
    · obtain ⟨rfl, rfl⟩ := Prod.mk.inj (Option.some.inj h)
      exact .inr (.inl ⟨p, .inl rfl, rfl, rfl, .inr rfl⟩)
    · simp at h
  · next p m exit reading =>
    split at h
    · exact .inr (.inr ⟨p, exit, reading, .inl rfl, rfl, Option.some.inj h⟩)
    · simp at h
  · next p =>
    obtain ⟨rfl, rfl⟩ := Prod.mk.inj (Option.some.inj h)
    exact .inr (.inl ⟨p, .inr rfl, rfl, rfl, .inl rfl⟩)
  · next p error reading =>
    exact .inr (.inr ⟨p, .raised error, reading, .inr rfl, rfl, Option.some.inj h⟩)
  · simp at h

theorem Run.accounted {g : StreamState} {l : List (StreamInput T)} (h : Run settings method c g l) :
    Circuit.Reachable settings c ∧ Accounted c g l := by
  induction h with
  | start hc => exact ⟨hc, fun i hi => absurd hi List.not_mem_nil⟩
  | @other c g l call _ ha ih =>
    obtain ⟨hc, hg⟩ := ih
    refine ⟨hc.call ha, ?_⟩
    cases g with
    | created | refused | finished permit recorded result => exact hg
    | awaiting permit | suspended permit => exact ⟨Circuit.mem_issued_after hg.1, hg.2⟩
  | @resume c c' g g' l i _ hr ih =>
    obtain ⟨hc, hg⟩ := ih
    have acquired : ∀ now, Circuit.Reachable settings (c.after (.acquire .bedrockModel now)) :=
      fun now => hc.call fun r hr => by simp [CircuitCall.record?] at hr
    rcases resume_cases hr with ⟨rfl, hi, ⟨rfl, rfl⟩ | ⟨now, rfl, hg'⟩⟩ | ⟨p, hp, hi, rfl, hg'⟩ |
      ⟨p, exit, reading, hp, hi, hleave⟩
    · exact ⟨hc, List.forall_mem_cons.2 ⟨hi, hg⟩⟩
    · rcases hg' with rfl | ⟨p, rfl, hp⟩
      · exact ⟨acquired now, List.forall_mem_cons.2 ⟨hi, hg⟩⟩
      · exact ⟨acquired now, hp, List.forall_mem_cons.2 ⟨hi, hg⟩⟩
    · have held : p ∈ c'.issued ∧ ∀ i ∈ l, exit? i = none := by
        rcases hp with rfl | rfl <;> exact hg
      have held' : p ∈ c'.issued ∧ ∀ j ∈ i :: l, exit? j = none :=
        ⟨held.1, List.forall_mem_cons.2 ⟨hi, held.2⟩⟩
      rcases hg' with rfl | rfl <;> exact ⟨hc, held'⟩
    · have held : p ∈ c.issued ∧ ∀ i ∈ l, exit? i = none := by
        rcases hp with rfl | rfl <;> exact hg
      exact accounted_leave hc held.1 held.2 hi hleave

/-- **Model circuit accounting, and when**: a finished generator has recorded one outcome for its
    permit, and success only for a delegate's stream that ran to its end, if and only if every exit
    of the body was one the `except` block can record. -/
theorem model_circuit_iff {recorded : List PermitOutcome} {result : Except RetryError Unit}
    {l : List (StreamInput T)}
    (h : Run settings method c (.finished permit recorded result) l) :
    (recorded.length = 1 ∧ (.success ∈ recorded → RanToEnd l)) ↔ ∀ i ∈ l, Recordable i := by
  obtain ⟨-, outcome, rfl, hspec⟩ := h.accounted
  rw [← hspec]
  constructor
  · rintro ⟨-, hs⟩ rfl
    exact hs (List.mem_singleton_self _)
  · intro hs
    refine ⟨rfl, fun hm => hs ?_⟩
    exact (List.mem_singleton.1 hm).symm

namespace Sample

/-- The model's circuit, which opened at time 2. -/
def opened : Circuit Nat :=
  ((({ breaker := { settings := Circuit.sampleSettings } } : Circuit Nat).after
    (.acquire .bedrockModel 1)).after (.transientFailure ⟨.bedrockModel, 0, false⟩ 2))

theorem opened_reachable : Circuit.Reachable Circuit.sampleSettings opened := by
  refine .call (.call .start fun r hr => by simp [CircuitCall.record?] at hr) fun r hr => ?_
  obtain rfl : _ = r := by simpa [CircuitCall.record?] using hr
  exact List.mem_singleton_self _

def probe : CircuitPermit := ⟨.bedrockModel, 2, true⟩

/-- `asyncio.CancelledError` is no `Exception`. -/
def cancelled : ReadError :=
  { classes := [], typeModule := "asyncio.exceptions", typeName := "CancelledError" }

/-- A probe of a dead model, cancelled while it waits. -/
theorem cancelled_run : Run Circuit.sampleSettings .stream
    ((opened.after (.acquire .bedrockModel 32)).after (.success probe))
    (.finished probe [.success] (.error (.raised cancelled)))
    [.exit .stream (.raised cancelled) none, .start (some 32)] :=
  .resume (.resume (.start opened_reachable) rfl) rfl

/-- A probe that is throttled. -/
def throttled : ReadError := { classes := [.exception, .modelThrottledException] }

theorem throttled_run : Run Circuit.sampleSettings .stream
    ((opened.after (.acquire .bedrockModel 32)).after (.transientFailure probe 33))
    (.finished probe [.transientFailure] (.error (.raised throttled)))
    [.exit .stream (.raised throttled) (some 33), .start (some 32)] :=
  .resume (.resume (.start opened_reachable) rfl) rfl

end Sample

/-- Cancelled, the probe counts as a success. -/
theorem cancelled_counts_as_success : ¬ ∀ (settings : CircuitBreakerSettings Nat)
    (method : ModelMethod) (c : Circuit Nat) (permit : CircuitPermit) (recorded : List PermitOutcome)
    (result : Except RetryError Unit) (l : List (StreamInput Nat)),
    Run settings method c (.finished permit recorded result) l →
    recorded.length = 1 ∧ (.success ∈ recorded → RanToEnd l) := by
  intro h
  obtain ⟨i, hi, reading, he⟩ := (h _ _ _ _ _ _ _ Sample.cancelled_run).2 (List.mem_singleton_self _)
  simp only [List.mem_cons, List.not_mem_nil, or_false] at hi
  rcases hi with rfl | rfl <;> simp [exit?] at he

theorem model_circuit_sample : [PermitOutcome.transientFailure].length = 1 ∧
    (.success ∈ [PermitOutcome.transientFailure] → RanToEnd
      [StreamInput.exit .stream (.raised Sample.throttled) (some 33), .start (some 32)]) := by
  refine (model_circuit_iff Sample.throttled_run).2 fun i hi => ?_
  simp only [List.mem_cons, List.not_mem_nil, or_false] at hi
  rcases hi with rfl | rfl
  · intro error reading he
    simp only [exit?, Option.some.injEq, Prod.mk.injEq, BodyExit.raised.injEq] at he
    obtain ⟨rfl, rfl⟩ := he
    exact ⟨rfl, .transientFailure, rfl, fun _ => rfl⟩
  · exact recordable_of_none rfl

end CircuitBoundedModel

end CloudOpsAgent
