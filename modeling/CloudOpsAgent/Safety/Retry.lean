/-
  `BoundedReadRetry`: explicit bounded retry rules for read-only dependencies only.

  One run holds one permit of the circuit, and leaves through one of these exits:

      acquire ─→ operation ─ result ───────────────────────────────────→ record_success
                    │ transient, attempts left ─→ sleeper ─ returns ─→ operation …
                    │                               └─ raises ─────────→ record_transient_failure
                    ├─ transient, the last attempt ────────────────────→ record_transient_failure
                    └─ not transient ──────────────────────────────────→ record_permanent_outcome

  Between any two of its requests the breaker may be used by others, with permits of their own.

  1. **Errors** — what the classification reads of an exception, and where it raises itself.

  2. **The run** — a program over the breaker, the operation and the sleeper.

  3. **Interleavings** — the history of one run on a breaker that others use (`Interleaved`).

  4. **What a run keeps to** (`BoundedRead`), and exactly when (`bounded_read_iff`): an error that the
     classification trips over leaves the run without an outcome, and a probe outstanding.
-/
import CloudOpsAgent.Lib.History
import CloudOpsAgent.Safety.Circuit

namespace CloudOpsAgent

open ClientProg

/-! ## Errors -/

/-- A value in the `response` of an exception.  `int` is any number equal to an integer; `other` is
    anything that equals no text, no integer and no mapping, such as a list. -/
inductive ErrorValue where
  | none
  | str (text : String)
  | int (value : Int)
  | mapping (fields : List (String × ErrorValue))
  | other (hashable : Bool)

namespace ErrorValue

/-- `value.get(key) if isinstance(value, Mapping) else None`. -/
def get (v : ErrorValue) (key : String) : ErrorValue :=
  match v with
  | .mapping fields => (fields.lookup key).getD .none
  | _ => .none

/-- What a set's `in` asks of the value before it looks. -/
def hashable : ErrorValue → Bool
  | .none | .str _ | .int _ => true
  | .mapping _ => false
  | .other hashable => hashable

/-- `value in texts`, a `TypeError` for what has no hash. -/
def isIn (v : ErrorValue) (texts : List String) : Option Bool :=
  if !v.hashable then Option.none
  else match v with
    | .str text => some (texts.contains text)
    | _ => some false

/-- `value in numbers`. -/
def isInt (v : ErrorValue) (numbers : List Int) : Option Bool :=
  if !v.hashable then Option.none
  else match v with
    | .int n => some (numbers.contains n)
    | _ => some false

end ErrorValue

/-- The classes that handlers and classifications ask about. -/
inductive ErrorClass where
  /-- `Exception`: what the handlers catch. -/
  | exception
  | timeoutError
  | connectionError
  | modelThrottledException
  deriving DecidableEq

/-- A raised object. -/
structure ReadError where
  classes : List ErrorClass := [.exception]
  typeModule : String := "builtins"
  typeName : String := "Exception"
  response : ErrorValue := .none

def ReadError.isinstance (e : ReadError) (c : ErrorClass) : Bool := e.classes.contains c

def transientCodes : List String :=
  ["InternalError", "InternalFailure", "RequestTimeout", "RequestTimeoutException",
    "ServiceUnavailable", "ServiceUnavailableException", "Throttling", "ThrottlingException",
    "TooManyRequestsException"]

def transientHttpStatuses : List Int := [429, 500, 502, 503, 504]

def permanentCodes : List String :=
  ["AccessDenied", "AccessDeniedException", "InvalidClientTokenId", "InvalidParameter",
    "InvalidParameterValue", "ResourceNotFoundException", "UnauthorizedOperation",
    "UnrecognizedClientException", "ValidationError", "ValidationException"]

def transientTransportErrors : List (String × String) :=
  [("botocore.exceptions", "ConnectTimeoutError"), ("botocore.exceptions", "ConnectionClosedError"),
    ("botocore.exceptions", "EndpointConnectionError"), ("botocore.exceptions", "ReadTimeoutError")]

/-- `is_known_transient_read_error`, `none` where it raises `TypeError`. -/
def isKnownTransientReadError (error : ReadError) : Option Bool :=
  if error.isinstance .timeoutError || error.isinstance .connectionError then some true
  else if transientTransportErrors.contains (error.typeModule, error.typeName) then some true
  else match error.response with
    | .mapping _ => do
      let code := (error.response.get "Error").get "Code"
      let status := (error.response.get "ResponseMetadata").get "HTTPStatusCode"
      if ← code.isIn permanentCodes then return false
      if ← code.isIn transientCodes then return true
      status.isInt transientHttpStatuses
    | _ => some false

/-! ## The run -/

inductive RetryOperationClass where
  | modelSchemaCorrection | readOnlyDependency | readOnlyValidation | durableConditionalConflict
  | mutationBeforeSend | mutationAckAmbiguous | verificationPoll
  deriving DecidableEq

/-- The three outcomes a permit's holder records. -/
inductive PermitOutcome where
  | success | permanent | transientFailure
  deriving DecidableEq

/-- The call that records an outcome, with the clock reading it would make. -/
def PermitOutcome.call {T : Type} (o : PermitOutcome) (permit : CircuitPermit) (now : T) :
    CircuitCall T :=
  match o with
  | .success => .success permit
  | .permanent => .permanentOutcome permit
  | .transientFailure => .transientFailure permit now

/-- What the run asks for. -/
inductive ReadReq where
  | acquire (dependency : CircuitDependency)
  | operation
  | sleeper (attempt : Nat)
  | record (outcome : PermitOutcome) (permit : CircuitPermit)

/-- Any result or exception of the operation, and any behaviour of the sleeper. -/
def ReadReq.Ans (α : Type) : ReadReq → Type
  | acquire _ => Except CircuitError CircuitPermit
  | operation => Except ReadError α
  | sleeper _ => Except ReadError Unit
  | record _ _ => Except CircuitError Unit

inductive RetryError where
  /-- `ValueError`: the operation class is not a read. -/
  | restricted
  | circuit (e : CircuitError)
  /-- `ReadRetryStateUnavailableError`. -/
  | stateUnavailable
  /-- `TypeError`, of the classification. -/
  | unclassified
  /-- `AssertionError`, after the loop. -/
  | noResult
  | raised (e : ReadError)

/-- Whether an `except Exception` would catch it. -/
def RetryError.isException : RetryError → Bool
  | .raised e => e.isinstance .exception
  | _ => true

structure BoundedReadRetry where
  maxAttempts : Nat := 2
  /-- The breaker and the dependency are configured together. -/
  dependency : Option CircuitDependency := none
  attempts_ok : 1 ≤ maxAttempts ∧ maxAttempts ≤ 3

namespace BoundedReadRetry

variable {α : Type}

abbrev ReadProg (α β : Type) := Prog ReadReq (ReadReq.Ans α) RetryError β

/-- Record the outcome of the permit, if one is held, and leave with `o`. -/
def conclude (permit : Option CircuitPermit) (outcome : PermitOutcome) (o : Except RetryError α) :
    ReadProg α α :=
  match permit with
  | none => .ofExcept o
  | some p => .call (.record outcome p) fun
    | .error e => .raise (.circuit e)
    | .ok () => .ofExcept o

/-- The loop, with `left` attempts to go. -/
def attempts (permit : Option CircuitPermit) (cap : Nat) : (left : Nat) → ReadProg α α
  | 0 => .raise .noResult
  | left + 1 => .call .operation fun
    | .ok result => conclude permit .success (.ok result)
    | .error error =>
      if !error.isinstance .exception then .raise (.raised error)
      else match isKnownTransientReadError error with
        | none => .raise .unclassified
        | some transient =>
          if cap - left < cap ∧ transient then .call (.sleeper (cap - left)) fun
            | .error e =>
              if !e.isinstance .exception then .raise (.raised e)
              else conclude permit .transientFailure (.error .stateUnavailable)
            | .ok () => attempts permit cap left
          else conclude permit (if transient then .transientFailure else .permanent)
            (.error (.raised error))

/-- `attempt_cap`. -/
def attemptCap (cfg : BoundedReadRetry) (permit : Option CircuitPermit) : Nat :=
  if permit.any (·.halfOpen) then 1 else cfg.maxAttempts

def run (cfg : BoundedReadRetry) (operationClass : RetryOperationClass) : ReadProg α α :=
  if operationClass ≠ .readOnlyDependency ∧ operationClass ≠ .verificationPoll then
    .raise .restricted
  else match cfg.dependency with
    | none => attempts none (cfg.attemptCap none) (cfg.attemptCap none)
    | some dependency => .call (.acquire dependency) fun
      | .error e => .raise (.circuit e)
      | .ok permit =>
        attempts (some permit) (cfg.attemptCap (some permit)) (cfg.attemptCap (some permit))

end BoundedReadRetry

/-! ## Interleavings -/

namespace Circuit

variable {T : Type} [LinearOrder T] [NatCast T] [Add T] {settings : CircuitBreakerSettings T}
  {c c' : Circuit T} {call : CircuitCall T}

/-- A probe holds the circuit half-open until its outcome is in. -/
def Outstanding (c : Circuit T) (permit : CircuitPermit) : Prop :=
  (c.stateOf permit.dependency).state = .halfOpen ∧
    c.generation permit.dependency = permit.generation

theorem mem_issued_after {p : CircuitPermit} (h : p ∈ c.issued) : p ∈ (c.after call).issued := by
  simp only [after]
  split
  · exact List.mem_cons_of_mem _ h
  · exact h

omit [Add T] in
theorem allows_record {p : CircuitPermit} {o : PermitOutcome} {now : T} (h : p ∈ c.issued) :
    c.Allows (o.call p now) := by
  intro r hr
  obtain rfl : r.permit = p := by
    cases o with
    | success | permanent | transientFailure =>
      exact congrArg CircuitRecord.permit (Option.some.inj hr).symm
  exact h

variable {α : Type}

/-- A history `l` of one holder of permits, from `c` to `c'`, on a breaker others use: a recorded
    outcome and a permit asked for are calls on the breaker, with whatever the clock reads then. -/
inductive Interleaved : Circuit T → List (Exchange ReadReq (ReadReq.Ans α)) → Circuit T → Prop
  | nil (c : Circuit T) : Interleaved c [] c
  | other {c c' : Circuit T} {l : List (Exchange ReadReq (ReadReq.Ans α))} {call : CircuitCall T}
    (ha : c.Allows call) (h : Interleaved (c.after call) l c') : Interleaved c l c'
  | acquire {c c' : Circuit T} {l : List (Exchange ReadReq (ReadReq.Ans α))} {d : CircuitDependency}
    {x : Except CircuitError CircuitPermit} (now : T)
    (hx : (c.perform (.acquire d now)).1 = x.map some)
    (h : Interleaved (c.after (.acquire d now)) l c') : Interleaved c (⟨.acquire d, x⟩ :: l) c'
  | record {c c' : Circuit T} {l : List (Exchange ReadReq (ReadReq.Ans α))} {o : PermitOutcome}
    {p : CircuitPermit} {x : Except CircuitError Unit} (now : T)
    (hx : (c.perform (o.call p now)).1 = x.map fun _ => none)
    (h : Interleaved (c.after (o.call p now)) l c') : Interleaved c (⟨.record o p, x⟩ :: l) c'
  | operation {c c' : Circuit T} {l : List (Exchange ReadReq (ReadReq.Ans α))}
    {x : Except ReadError α} (h : Interleaved c l c') : Interleaved c (⟨.operation, x⟩ :: l) c'
  | sleeper {c c' : Circuit T} {l : List (Exchange ReadReq (ReadReq.Ans α))} {n : Nat}
    {x : Except ReadError Unit} (h : Interleaved c l c') : Interleaved c (⟨.sleeper n, x⟩ :: l) c'

variable {l : List (Exchange ReadReq (ReadReq.Ans α))} {p : CircuitPermit}

/-- Once a permit is held, a history records outcomes of that one only, and others go on as they
    like: generations only grow, and with an outcome of a probe its own is over. -/
theorem Interleaved.later (h : Interleaved c l c') (hc : Reachable settings c) (hp : p ∈ c.issued)
    (hl : ∀ o q x, ⟨.record o q, x⟩ ∈ l → q = p) (ha : ∀ d x, ⟨.acquire d, x⟩ ∉ l) :
    c.generation p.dependency ≤ c'.generation p.dependency ∧
    (p.halfOpen → (∃ o x, ⟨.record o p, x⟩ ∈ l) →
      p.generation < c'.generation p.dependency) := by
  induction h with
  | nil c => exact ⟨le_rfl, fun _ ⟨o, x, hx⟩ => absurd hx (List.not_mem_nil)⟩
  | other hallow _ ih =>
    obtain ⟨hle, hlt⟩ := ih (hc.call hallow) (mem_issued_after hp) hl ha
    exact ⟨(hc.fits.generation_le hallow _).trans hle, hlt⟩
  | acquire now hx _ ih => exact absurd (List.mem_cons_self ..) (ha _ _)
  | @record c c' l o q x now hx _ ih =>
    obtain rfl : q = p := hl o q x (List.mem_cons_self ..)
    have hallow : c.Allows (o.call q now) := allows_record hp
    obtain ⟨hle, hlt⟩ := ih (hc.call hallow) (mem_issued_after hp)
      (fun o' q' x' hm => hl o' q' x' (List.mem_cons_of_mem _ hm))
      (fun d x' hm => ha d x' (List.mem_cons_of_mem _ hm))
    refine ⟨(hc.fits.generation_le hallow _).trans hle, fun hprobe _ => ?_⟩
    have own : q.generation < (c.after (o.call q now)).generation q.dependency := by
      cases o with
      | success => exact hc.fits.generation_lt (r := ⟨q, false⟩) hallow rfl hprobe
      | permanent => exact hc.fits.generation_lt (r := ⟨q, false⟩) hallow rfl hprobe
      | transientFailure => exact hc.fits.generation_lt (r := ⟨q, true⟩) hallow rfl hprobe
    exact Nat.lt_of_lt_of_le own hle
  | operation _ ih | sleeper _ ih =>
    obtain ⟨hle, hlt⟩ := ih hc hp
      (fun o' q' x' hm => hl o' q' x' (List.mem_cons_of_mem _ hm))
      (fun d x' hm => ha d x' (List.mem_cons_of_mem _ hm))
    refine ⟨hle, ?_⟩
    rintro hprobe ⟨o, x', hm⟩
    rcases List.mem_cons.mp hm with he | hm
    · have := congrArg Sigma.fst he
      simp at this
    · exact hlt hprobe ⟨o, x', hm⟩

/-- A permit that was asked for is issued. -/
theorem Interleaved.held {d : CircuitDependency}
    (h : Interleaved c (⟨.acquire d, .ok p⟩ :: l) c') (hc : Reachable settings c) :
    ∃ c₁, Reachable settings c₁ ∧ p ∈ c₁.issued ∧ Interleaved c₁ l c' := by
  generalize hl : (⟨.acquire d, .ok p⟩ :: l : List (Exchange ReadReq (ReadReq.Ans α))) = l₀ at h
  induction h with
  | nil c => simp at hl
  | other hallow _ ih => exact ih (hc.call hallow) hl
  | @acquire c c' l₁ d' x now hx hrest _ =>
    cases hl
    refine ⟨_, hc.call fun r hr => ?_, ?_, hrest⟩
    · simp [CircuitCall.record?] at hr
    · have granted : (c.perform (.acquire d now)).1 = .ok (some p) := hx
      simp [after, granted]
  | record now hx _ _ => cases hl
  | operation _ _ => cases hl
  | sleeper _ _ => cases hl

end Circuit

/-! ## What a run keeps to -/

namespace BoundedReadRetry

variable {α : Type}

abbrev ReadHistory (α : Type) := List (Exchange ReadReq (ReadReq.Ans α))

def isOperation (e : Exchange ReadReq (ReadReq.Ans α)) : Bool :=
  match e with
  | ⟨.operation, _⟩ => true
  | _ => false

def recordsFor (p : CircuitPermit) (e : Exchange ReadReq (ReadReq.Ans α)) : Bool :=
  match e with
  | ⟨.record _ q, _⟩ => q = p
  | _ => false

/-- How often the operation was invoked. -/
def operations (l : ReadHistory α) : Nat := l.countP isOperation

/-- How many outcomes were recorded for a permit. -/
def outcomes (p : CircuitPermit) (l : ReadHistory α) : Nat := l.countP (recordsFor p)

/-- Every invocation after which there is another one raised an error classified transient. -/
def AgainAfterTransient : ReadHistory α → Prop
  | [] => True
  | ⟨.operation, x⟩ :: l =>
    (0 < operations l → ∃ e, x = .error e ∧ isKnownTransientReadError e = some true) ∧
      AgainAfterTransient l
  | _ :: l => AgainAfterTransient l

/-- An answer the handlers of the run can deal with: what the operation raises is an `Exception`
    that can be classified, and what the sleeper raises is an `Exception`. -/
def Handled (e : Exchange ReadReq (ReadReq.Ans α)) : Prop :=
  match e with
  | ⟨.operation, .error e⟩ => e.isinstance .exception ∧ (isKnownTransientReadError e).isSome
  | ⟨.sleeper _, .error e⟩ => e.isinstance .exception
  | _ => True

/-- The run has returned or raised. -/
def Ended (q : ReadProg α α) : Prop := ∃ o, q = .ofExcept o

/-- The run has returned, or raised an `Exception`. -/
def Answered (q : ReadProg α α) : Prop :=
  ∃ o : Except RetryError α, q = .ofExcept o ∧ ∀ e, o = .error e → e.isException

theorem not_ended_call {r : ReadReq} {k : r.Ans α → ReadProg α α} : ¬ Ended (.call r k) := by
  rintro ⟨o, ho⟩
  cases o <;> simp at ho

/-- What the history of an exit says: the outcome of the permit, once the run has ended. -/
theorem conclude_history {permit : Option CircuitPermit} {outcome : PermitOutcome}
    {o : Except RetryError α} {l : ReadHistory α} {q : ReadProg α α}
    (h : Path (conclude permit outcome o) l q) :
    (∀ e ∈ l, ∃ p, permit = some p ∧ e.1 = .record outcome p) ∧
    (Ended q → ∀ p, permit = some p → outcomes p l = 1) := by
  cases permit with
  | none =>
    obtain ⟨rfl, -⟩ := Path.ofExcept_iff.1 h
    exact ⟨fun e he => absurd he List.not_mem_nil, fun _ p hp => by simp at hp⟩
  | some p =>
    rcases Path.call_iff.1 h with ⟨rfl, rfl⟩ | ⟨x, l', rfl, hk⟩
    · exact ⟨fun e he => absurd he List.not_mem_nil, fun hq => absurd hq not_ended_call⟩
    · have hl' : l' = [] := by
        cases x with
        | error e => exact (Path.raise_iff.1 hk).1
        | ok u => exact (Path.ofExcept_iff.1 hk).1
      subst hl'
      refine ⟨?_, ?_⟩
      · intro e he
        obtain rfl := List.mem_singleton.1 he
        exact ⟨p, rfl, rfl⟩
      · intro _ p' hp'
        obtain rfl := Option.some.inj hp'
        simp [outcomes, recordsFor]

/-- What a history of the loop says that starts with `left` attempts to go. -/
structure LoopHistory (permit : Option CircuitPermit) (left : Nat) (l : ReadHistory α)
    (q : ReadProg α α) : Prop where
  operations_le : operations l ≤ left
  again : AgainAfterTransient l
  records : ∀ o p x, ⟨.record o p, x⟩ ∈ l → permit = some p
  acquires : ∀ d x, ⟨.acquire d, x⟩ ∉ l
  outcome : Ended q → ∀ p, permit = some p → (outcomes p l = 1 ↔ ∀ e ∈ l, Handled e)

variable {permit : Option CircuitPermit} {left left' : Nat} {l : ReadHistory α} {q : ReadProg α α}

/-- A request that is neither for a permit nor for an outcome. -/
def Outside (r : ReadReq) : Prop := r = .operation ∨ ∃ n, r = .sleeper n

/-- A history of records alone. -/
theorem LoopHistory.of_conclude {outcome : PermitOutcome} {o : Except RetryError α}
    (h : Path (conclude permit outcome o) l q) (left : Nat) : LoopHistory permit left l q := by
  obtain ⟨hl, hq⟩ := conclude_history h
  have none : operations l = 0 := by
    refine List.countP_eq_zero.2 fun e he => ?_
    obtain ⟨p, -, hr⟩ := hl e he
    obtain ⟨r, x⟩ := e
    obtain rfl : r = _ := hr
    simp [isOperation]
  have again : ∀ l : ReadHistory α, (∀ e ∈ l, ∃ p, permit = some p ∧ e.1 = .record outcome p) →
      AgainAfterTransient l := by
    intro l hl
    induction l with
    | nil => trivial
    | cons e l ih =>
      obtain ⟨p, -, hr⟩ := hl e (List.mem_cons_self ..)
      obtain ⟨r, x⟩ := e
      obtain rfl : r = _ := hr
      exact ih fun e' he' => hl e' (List.mem_cons_of_mem _ he')
  constructor
  · rw [none]
    exact Nat.zero_le _
  · exact again l hl
  · intro o' p x hm
    obtain ⟨p', hp', he⟩ := hl _ hm
    simp only [ReadReq.record.injEq] at he
    rw [hp', he.2]
  · intro d x hm
    obtain ⟨p', -, he⟩ := hl _ hm
    simp at he
  · intro hended p hp
    rw [hq hended p hp]
    refine iff_of_true rfl fun e he => ?_
    obtain ⟨p', -, hr⟩ := hl e he
    obtain ⟨r, x⟩ := e
    obtain rfl : r = _ := hr
    trivial

/-- A history that has stopped short of an outcome: it is not over, or an answer went unhandled. -/
theorem LoopHistory.stopped (ho : operations l ≤ left) (ha : AgainAfterTransient l)
    (hl : ∀ e ∈ l, Outside e.1) (hq : Ended q → ∃ e ∈ l, ¬ Handled e) :
    LoopHistory permit left l q := by
  constructor
  · exact ho
  · exact ha
  · intro o p x hm
    rcases hl _ hm with hr | ⟨n, hr⟩ <;> simp at hr
  · intro d x hm
    rcases hl _ hm with hr | ⟨n, hr⟩ <;> simp at hr
  · intro hended p _
    obtain ⟨e, he, hn⟩ := hq hended
    have none : outcomes p l = 0 := by
      refine List.countP_eq_zero.2 fun e' he' => ?_
      obtain ⟨r, x⟩ := e'
      rcases hl _ he' with hr | ⟨n, hr⟩
      · obtain rfl : r = _ := hr
        simp [recordsFor]
      · obtain rfl : r = _ := hr
        simp [recordsFor]
    rw [none]
    exact iff_of_false (by decide) fun hall => hn (hall e he)

/-- One more answer in front, and one that is handled. -/
theorem LoopHistory.cons {e : Exchange ReadReq (ReadReq.Ans α)} (h : LoopHistory permit left' l q)
    (he : Handled e) (hr : Outside e.1) (ho : operations (e :: l) ≤ left)
    (ha : AgainAfterTransient (e :: l)) : LoopHistory permit left (e :: l) q := by
  obtain ⟨r, x⟩ := e
  have own : ∀ p, recordsFor p ⟨r, x⟩ = false := by
    intro p
    rcases hr with hr | ⟨n, hr⟩
    · obtain rfl : r = _ := hr
      rfl
    · obtain rfl : r = _ := hr
      rfl
  constructor
  · exact ho
  · exact ha
  · intro o p y hm
    rcases List.mem_cons.mp hm with heq | hm
    · have := congrArg (recordsFor p) heq
      rw [own] at this
      simp [recordsFor] at this
    · exact h.records o p y hm
  · intro d y hm
    rcases List.mem_cons.mp hm with heq | hm
    · obtain rfl : _ = r := congrArg Sigma.fst heq
      rcases hr with hr | ⟨n, hr⟩ <;> simp at hr
    · exact h.acquires d y hm
  · intro hended p hp
    have same : outcomes p (⟨r, x⟩ :: l) = outcomes p l := List.countP_cons_of_neg (by simp [own])
    rw [same, h.outcome hended p hp, List.forall_mem_cons]
    exact ⟨fun hall => ⟨he, hall⟩, fun hall => hall.2⟩

theorem operations_operation {x : ReadReq.Ans α .operation} (h : operations l ≤ left) :
    operations (⟨.operation, x⟩ :: l) ≤ left + 1 := by
  have count : operations (⟨.operation, x⟩ :: l) = operations l + 1 := List.countP_cons_of_pos rfl
  omega

theorem operations_sleeper {n : Nat} {x : ReadReq.Ans α (.sleeper n)} (h : operations l ≤ left) :
    operations (⟨.sleeper n, x⟩ :: l) ≤ left := by
  have count : operations (⟨.sleeper n, x⟩ :: l) = operations l :=
    List.countP_cons_of_neg (by simp [isOperation])
  omega

theorem operations_of_conclude {outcome : PermitOutcome} {o : Except RetryError α}
    (h : Path (conclude permit outcome o) l q) : operations l = 0 :=
  Nat.le_zero.mp (LoopHistory.of_conclude h 0).operations_le

/-- The loop, from any number of attempts to go: the induction is on that number, and only the last
    attempt has none after it. -/
theorem attempts_history {cap : Nat} (hleft : left < cap)
    (h : Path (attempts permit cap (left + 1)) l q) : LoopHistory permit (left + 1) l q := by
  induction left using Nat.strong_induction_on generalizing l with
  | _ left ih =>
    rcases Path.call_iff.1 h with ⟨rfl, rfl⟩ | ⟨x, l', rfl, hk⟩
    · exact .stopped (Nat.zero_le _) trivial (fun e he => absurd he List.not_mem_nil)
        fun hq => absurd hq not_ended_call
    · have last : ∀ {o : Except RetryError α} {outcome : PermitOutcome}, Handled ⟨.operation, x⟩ →
          Path (conclude permit outcome o) l' q →
          LoopHistory permit (left + 1) (⟨.operation, x⟩ :: l') q := by
        intro o outcome hx hc
        have none := operations_of_conclude hc
        refine (LoopHistory.of_conclude hc left).cons hx (.inl rfl) ?_ ⟨?_, ?_⟩
        · exact operations_operation (by omega)
        · intro hpos
          omega
        · exact (LoopHistory.of_conclude hc left).again
      have unhandled : ¬ Handled ⟨.operation, x⟩ → l' = [] →
          LoopHistory permit (left + 1) (⟨.operation, x⟩ :: l') q := by
        rintro hx rfl
        refine .stopped ?_ ⟨fun hpos => absurd hpos (Nat.lt_irrefl 0), trivial⟩ ?_ ?_
        · exact operations_operation (Nat.zero_le _)
        · intro e he
          obtain rfl := List.mem_singleton.1 he
          exact .inl rfl
        · exact fun _ => ⟨_, List.mem_singleton_self _, hx⟩
      cases x with
      | ok result => exact last trivial hk
      | error error =>
        dsimp only at hk
        by_cases hexc : error.isinstance .exception
        · rw [if_neg (by simp [hexc])] at hk
          cases hclass : isKnownTransientReadError error with
          | none =>
            simp only [hclass] at hk
            refine unhandled ?_ (Path.raise_iff.1 hk).1
            intro hx
            have := hx.2
            rw [hclass] at this
            simp at this
          | some transient =>
            have hx : Handled (⟨.operation, .error error⟩ : Exchange ReadReq (ReadReq.Ans α)) :=
              ⟨hexc, by rw [hclass]; rfl⟩
            simp only [hclass] at hk
            split at hk
            · next hmore =>
              obtain ⟨hlt, ht⟩ := hmore
              have htransient : isKnownTransientReadError error = some true := by rw [hclass, ht]
              have front : LoopHistory permit left l' q →
                  LoopHistory permit (left + 1) (⟨.operation, .error error⟩ :: l') q := by
                intro hl
                exact hl.cons hx (.inl rfl) (operations_operation hl.operations_le)
                  ⟨fun _ => ⟨error, rfl, htransient⟩, hl.again⟩
              refine front ?_
              rcases Path.call_iff.1 hk with ⟨rfl, rfl⟩ | ⟨y, l'', rfl, hy⟩
              · exact .stopped (Nat.zero_le _) trivial (fun e he => absurd he List.not_mem_nil)
                  fun hq => absurd hq not_ended_call
              · cases y with
                | ok u =>
                  obtain ⟨m, rfl⟩ : ∃ m, left = m + 1 := ⟨left - 1, by omega⟩
                  have hm := ih m (by omega) (by omega) hy
                  exact hm.cons trivial (.inr ⟨_, rfl⟩) (operations_sleeper hm.operations_le) hm.again
                | error e =>
                  dsimp only at hy
                  by_cases he : e.isinstance .exception
                  · rw [if_neg (by simp [he])] at hy
                    have hl := LoopHistory.of_conclude hy left
                    exact hl.cons he (.inr ⟨_, rfl⟩) (operations_sleeper hl.operations_le) hl.again
                  · rw [if_pos (by simp [he])] at hy
                    obtain ⟨rfl, -⟩ := Path.raise_iff.1 hy
                    refine .stopped (operations_sleeper (Nat.zero_le _)) trivial ?_
                      fun _ => ⟨_, List.mem_singleton_self _, he⟩
                    intro e' he'
                    obtain rfl := List.mem_singleton.1 he'
                    exact .inr ⟨_, rfl⟩
            · exact last hx hk
        · rw [if_pos (by simp [hexc])] at hk
          exact unhandled (fun hx => hexc hx.1) (Path.raise_iff.1 hk).1

variable {T : Type} [LinearOrder T] [NatCast T] [Add T] {settings : CircuitBreakerSettings T}
  {c c' : Circuit T} {cfg : BoundedReadRetry} {operationClass : RetryOperationClass}

/-- The permit a run holds. -/
def Acquired (l : ReadHistory α) (p : CircuitPermit) : Prop := ∃ d, ⟨.acquire d, .ok p⟩ ∈ l

/-- What is asked of the history `l` of a run that is `q` now, on a breaker that is `c'` now. -/
structure BoundedRead (cfg : BoundedReadRetry) (l : ReadHistory α) (q : ReadProg α α)
    (c' : Circuit T) : Prop where
  attempts : operations l ≤ cfg.maxAttempts
  probe : ∀ p, Acquired l p → p.halfOpen → operations l ≤ 1
  again : AgainAfterTransient l
  outcome : Ended q → ∀ p, Acquired l p → outcomes p l = 1
  released : Answered q → ∀ p, Acquired l p → p.halfOpen → ¬ c'.Outstanding p

omit [Add T] in
/-- A run without a permit. -/
theorem BoundedRead.of_none {left : Nat} (h : LoopHistory none left l q)
    (hleft : left ≤ cfg.maxAttempts) : BoundedRead cfg l q c' := by
  have no : ∀ p, ¬ Acquired l p := fun p ⟨d, hd⟩ => h.acquires d _ hd
  exact ⟨h.operations_le.trans hleft, fun p hp => absurd hp (no p), h.again,
    fun _ p hp => absurd hp (no p), fun _ p hp => absurd hp (no p)⟩

/-- The histories of a run: refused, still without a permit, or a loop, with one or without. -/
theorem run_history (h : Path (cfg.run operationClass) l q) :
    LoopHistory none cfg.maxAttempts l q ∨
    (∃ d e, l = [⟨.acquire d, .error e⟩]) ∨
    ∃ d p l', l = ⟨.acquire d, .ok p⟩ :: l' ∧
      LoopHistory (some p) (cfg.attemptCap (some p)) l' q := by
  have cap_pos : ∀ permit, 0 < cfg.attemptCap permit := by
    intro permit
    have := cfg.attempts_ok.1
    unfold attemptCap
    split <;> omega
  have nothing : ∀ {q : ReadProg α α}, LoopHistory none cfg.maxAttempts [] q := by
    intro q
    refine ⟨Nat.zero_le _, trivial, fun o p x hm => absurd hm List.not_mem_nil,
      fun d x hm => absurd hm List.not_mem_nil, fun _ p hp => ?_⟩
    simp at hp
  have loop : ∀ {permit : Option CircuitPermit} {l : ReadHistory α},
      Path (attempts permit (cfg.attemptCap permit) (cfg.attemptCap permit)) l q →
      LoopHistory permit (cfg.attemptCap permit) l q := by
    intro permit l hl
    obtain ⟨n, hn⟩ : ∃ n, cfg.attemptCap permit = n + 1 :=
      ⟨cfg.attemptCap permit - 1, (Nat.succ_pred_eq_of_pos (cap_pos permit)).symm⟩
    rw [hn] at hl ⊢
    exact attempts_history (Nat.lt_succ_self n) hl
  unfold run at h
  split at h
  · obtain ⟨rfl, -⟩ := Path.raise_iff.1 h
    exact .inl nothing
  · split at h
    · exact .inl (loop h)
    · next d _ =>
      rcases Path.call_iff.1 h with ⟨rfl, -⟩ | ⟨x, l', rfl, hk⟩
      · exact .inl nothing
      · cases x with
        | error e =>
          obtain ⟨rfl, -⟩ := Path.raise_iff.1 hk
          exact .inr (.inl ⟨d, e, rfl⟩)
        | ok p => exact .inr (.inr ⟨d, p, l', rfl, loop hk⟩)

/-- **Bounded read retry, and when**: a run of `BoundedReadRetry` keeps to its bounds, records one
    outcome for its permit and gives its probe back, if and only if it holds no permit or every
    answer it gets is one its handlers can deal with. -/
theorem bounded_read_iff (hc : Circuit.Reachable settings c) (h : Path (cfg.run operationClass) l q)
    (hi : Circuit.Interleaved c l c') :
    BoundedRead cfg l q c' ↔ (Ended q → ∀ p, Acquired l p → ∀ e ∈ l, Handled e) := by
  rcases run_history h with hl | ⟨d, e, rfl⟩ | ⟨d, p, l', rfl, hl⟩
  · refine iff_of_true (.of_none hl le_rfl) fun _ p hp => ?_
    obtain ⟨d, hd⟩ := hp
    exact absurd hd (hl.acquires d _)
  · -- The circuit is open, or its state unavailable: the operation is not invoked.
    have no : ∀ p, ¬ Acquired ([⟨.acquire d, .error e⟩] : ReadHistory α) p := by
      rintro p ⟨d', hd⟩
      cases List.mem_singleton.1 hd
    refine iff_of_true ⟨Nat.zero_le _, fun p hp => absurd hp (no p), trivial,
      fun _ p hp => absurd hp (no p), fun _ p hp => absurd hp (no p)⟩
      fun _ p hp => absurd hp (no p)
  · have held : ∀ p', Acquired (⟨.acquire d, .ok p⟩ :: l') p' → p' = p := by
      rintro p' ⟨d', hd⟩
      rcases List.mem_cons.mp hd with heq | hd
      · cases heq
        rfl
      · exact absurd hd (hl.acquires d' _)
    have acquired : Acquired (⟨.acquire d, .ok p⟩ :: l') p := ⟨d, List.mem_cons_self ..⟩
    have count : outcomes p (⟨.acquire d, .ok p⟩ :: l') = outcomes p l' :=
      List.countP_cons_of_neg (by simp [recordsFor])
    have invoked : operations (⟨.acquire d, .ok p⟩ :: l') = operations l' :=
      List.countP_cons_of_neg (by simp [isOperation])
    constructor
    · intro hb hended p' hp'
      obtain rfl := held p' hp'
      have one := hb.outcome hended p' acquired
      rw [count] at one
      exact List.forall_mem_cons.2 ⟨trivial, (hl.outcome hended p' rfl).1 one⟩
    · intro hh
      have one : Ended q → outcomes p l' = 1 := fun hended =>
        (hl.outcome hended p rfl).2 (List.forall_mem_cons.1 (hh hended p acquired)).2
      constructor
      · rw [invoked]
        refine hl.operations_le.trans ?_
        have := cfg.attempts_ok.1
        unfold attemptCap
        split <;> omega
      · intro p' hp' hprobe
        obtain rfl := held p' hp'
        rw [invoked]
        have cap : cfg.attemptCap (some p') = 1 := by simp [attemptCap, hprobe]
        rw [← cap]
        exact hl.operations_le
      · exact hl.again
      · intro hended p' hp'
        obtain rfl := held p' hp'
        rw [count]
        exact one hended
      · rintro ⟨o, ho, -⟩ p' hp' hprobe ⟨-, hg⟩
        obtain rfl := held p' hp'
        have : 0 < outcomes p' l' := by rw [one ⟨o, ho⟩]; exact Nat.one_pos
        obtain ⟨⟨r, x⟩, hm, hr⟩ := List.countP_pos_iff.1 this
        obtain ⟨o', rfl⟩ : ∃ o', r = .record o' p' := by
          cases r with
          | record o' p'' => exact ⟨o', by rw [show p'' = p' by simpa [recordsFor] using hr]⟩
          | acquire d | operation | sleeper n => simp [recordsFor] at hr
        obtain ⟨c₁, hc₁, hp₁, hi₁⟩ := hi.held hc
        obtain ⟨-, hlt⟩ := hi₁.later hc₁ hp₁
          (fun o'' p'' y hy => (Option.some.inj (hl.records o'' p'' y hy)).symm) hl.acquires
        have passed := hlt hprobe ⟨o', x, hm⟩
        omega

namespace Sample

/-- A circuit that opened at time 2, for thirty seconds. -/
def opened : Circuit Nat := Circuit.sample.after (.transientFailure ⟨.ec2Read, 0, false⟩ 2)

theorem opened_reachable : Circuit.Reachable Circuit.sampleSettings opened := by
  have first : Circuit.Reachable Circuit.sampleSettings Circuit.sample :=
    .call .start fun r hr => by simp [CircuitCall.record?] at hr
  refine .call first fun r hr => ?_
  obtain rfl : _ = r := by simpa [CircuitCall.record?] using hr
  exact List.mem_singleton_self _

def retry : BoundedReadRetry := { dependency := some .ec2Read, attempts_ok := by decide }

def probe : CircuitPermit := ⟨.ec2Read, 2, true⟩

/-- An error whose code is a list. -/
def listCode : ReadError :=
  { response := .mapping [("Error", .mapping [("Code", .other false)])] }

/-- The run that meets it. -/
def tripped : ReadHistory Unit :=
  [⟨.acquire .ec2Read, .ok probe⟩, ⟨.operation, .error listCode⟩]

theorem tripped_path :
    Path (retry.run .readOnlyDependency) tripped (.raise .unclassified : ReadProg Unit Unit) :=
  .call (.call (.nil _))

theorem tripped_interleaved :
    Circuit.Interleaved opened tripped (opened.after (.acquire .ec2Read 32)) :=
  .acquire 32 rfl (.operation (.nil _))

/-- The run that reads. -/
def answered : ReadHistory Unit :=
  [⟨.acquire .ec2Read, .ok probe⟩, ⟨.operation, .ok ()⟩, ⟨.record .success probe, .ok ()⟩]

theorem answered_path :
    Path (retry.run .readOnlyDependency) answered (.ret () : ReadProg Unit Unit) :=
  .call (.call (.call (.nil _)))

theorem answered_interleaved : Circuit.Interleaved opened answered
    ((opened.after (.acquire .ec2Read 32)).after (.success probe)) :=
  .acquire 32 rfl (.operation (.record 33 rfl (.nil _)))

end Sample

/-- A list for a code: the run ends in a `TypeError`, and its probe stays out. -/
theorem probe_never_returned : ¬ ∀ (cfg : BoundedReadRetry) (operationClass : RetryOperationClass)
    (settings : CircuitBreakerSettings Nat) (c c' : Circuit Nat) (l : ReadHistory Unit)
    (q : ReadProg Unit Unit), Circuit.Reachable settings c → Path (cfg.run operationClass) l q →
    Circuit.Interleaved c l c' →
    (∀ e, (⟨.operation, .error e⟩ : Exchange ReadReq (ReadReq.Ans Unit)) ∈ l →
      e.isinstance .exception) →
    BoundedRead cfg l q c' := by
  intro h
  have hb := h Sample.retry .readOnlyDependency Circuit.sampleSettings Sample.opened _ Sample.tripped _
    Sample.opened_reachable Sample.tripped_path Sample.tripped_interleaved ?_
  · have answered : Answered (.raise .unclassified : ReadProg Unit Unit) :=
      ⟨.error .unclassified, rfl, fun e he => by cases he; rfl⟩
    exact hb.released answered Sample.probe ⟨.ec2Read, List.mem_cons_self ..⟩ rfl ⟨rfl, rfl⟩
  · intro e he
    rcases List.mem_cons.mp he with he | he
    · cases he
    · cases List.mem_singleton.1 he
      rfl

theorem bounded_read_sample :
    BoundedRead Sample.retry Sample.answered (.ret () : ReadProg Unit Unit)
      ((Sample.opened.after (.acquire .ec2Read 32)).after (.success Sample.probe)) := by
  refine (bounded_read_iff Sample.opened_reachable Sample.answered_path
    Sample.answered_interleaved).2 ?_
  intro _ p _ e he
  simp only [Sample.answered, List.mem_cons, List.not_mem_nil, or_false] at he
  rcases he with rfl | rfl | rfl <;> trivial

end BoundedReadRetry

end CloudOpsAgent
