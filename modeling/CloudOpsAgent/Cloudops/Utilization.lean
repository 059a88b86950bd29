/-
  CPU utilization of one sandbox instance, as CloudWatch reports it.

  CloudWatch returns datapoints in any order.  They are checked one by one, sorted by their time, and
  refused when two have the same; the evidence is made of the sorted ones:

      Datapoints ─ check each ─→ points ─ sort, no duplicates ─→ ordered ─ average, classify, hash ─→

  Floats are a type with Python's operations on it (`PyFloat`), about which nothing is assumed: the
  order of summation is the sorted one, whatever the order of the response.

  1. **Evidence** — `UtilizationEvidence` with its validator (`EvidenceFields.violation`).

  2. **The service** — `read`, from the inspection to the evidence.

  3. **Order** — a permutation of the datapoints gives the same evidence, or an error of the same
     class (`read_perm`).
-/
import CloudOpsAgent.Nz.Contracts
import CloudOpsAgent.Nz.Sha256
import Mathlib.Algebra.Ring.Nat

namespace CloudOpsAgent

/-- Python's floats: conversion, comparison, and the functions of `math` that are used. -/
class PyFloat (F : Type) where
  /-- `float(i)`, `none` for its `OverflowError`. -/
  ofInt : Int → Option F
  isfinite : F → Bool
  le : F → F → Bool
  fsum : List F → F
  /-- `x / n`. -/
  divNat : F → Nat → F
  /-- `round(x, 6)`. -/
  round6 : F → F
  /-- `isclose(x, y, abs_tol=1e-9)`. -/
  isclose : F → F → Bool
  zero : F
  hundred : F
  repr : F → String

namespace Utilization

variable {F : Type} [PyFloat F]

/-! ## Evidence -/

inductive UtilizationClassification where
  | eligibleCandidate | notIdle | ambiguous
  deriving DecidableEq

def UtilizationClassification.value : UtilizationClassification → String
  | eligibleCandidate => "ELIGIBLE_CANDIDATE"
  | notIdle => "NOT_IDLE"
  | ambiguous => "AMBIGUOUS"

/-- `Field(ge=0, le=100, allow_inf_nan=False)`. -/
def isPercent (x : F) : Bool :=
  PyFloat.isfinite x && PyFloat.le PyFloat.zero x && PyFloat.le x PyFloat.hundred

structure MetricDatapoint (F : Type) [PyFloat F] where
  timestamp : Time
  valuePercent : F
  value_ok : isPercent valuePercent

/-- `_average`. -/
def average (datapoints : List (MetricDatapoint F)) : Option F :=
  if datapoints.isEmpty then none
  else some (PyFloat.round6 (PyFloat.divNat
    (PyFloat.fsum (datapoints.map MetricDatapoint.valuePercent)) datapoints.length))

/-- `_classification`. -/
def classification (datapointCount minimumDatapoints : Nat) (averageCpuPercent : Option F)
    (threshold : F) : UtilizationClassification :=
  match averageCpuPercent with
  | none => .ambiguous
  | some x =>
    if datapointCount < minimumDatapoints then .ambiguous
    else if PyFloat.le x threshold then .eligibleCandidate
    else .notIdle

/-- The fields of `UtilizationEvidence` that are not fixed. -/
structure EvidenceFields (F : Type) [PyFloat F] where
  identity : InvestigationIdentity
  instanceId : String
  windowStart : Time
  windowEnd : Time
  periodSeconds : Nat
  minimumDatapoints : Nat
  idleThresholdPercent : F
  datapoints : List (MetricDatapoint F)
  datapointCount : Nat
  averageCpuPercent : Option F
  classification : UtilizationClassification
  collectedAt : Time
  evidenceDigest : Sha256Digest

namespace EvidenceFields

def evidencePayload (e : EvidenceFields F) : Json :=
  .obj [("authority_gate", .str "AUTO"),
    ("average_cpu_percent", .ofOption (fun x => .float (PyFloat.repr x)) e.averageCpuPercent),
    ("classification", .str e.classification.value),
    ("collected_at", .str (Time.isoformat e.collectedAt)),
    ("correlation_id", .str e.identity.correlationId.str),
    ("datapoints", .arr (e.datapoints.map fun p =>
      .obj [("timestamp", .str (Time.isoformat p.timestamp)),
        ("value_percent", .float (PyFloat.repr p.valuePercent))])),
    ("idle_threshold_percent", .float (PyFloat.repr e.idleThresholdPercent)),
    ("instance_id", .str e.instanceId), ("metric_name", .str "CPUUtilization"),
    ("minimum_datapoints", .int e.minimumDatapoints), ("namespace", .str "AWS/EC2"),
    ("operation_class", .str "READ_ONLY"), ("period_seconds", .int e.periodSeconds),
    ("region", .str "eu-central-1"), ("run_id", .str e.identity.runId.str),
    ("statistic", .str "Average"), ("trace_id", .str e.identity.traceId.str),
    ("unit", .str "Percent"), ("window_end", .str (Time.isoformat e.windowEnd)),
    ("window_start", .str (Time.isoformat e.windowStart))]

/-- The bounds of the fields, then `validate_evidence_integrity`: the first check that fails. -/
def violation [Sha256] (e : EvidenceFields F) : Option String :=
  let timestamps := e.datapoints.map MetricDatapoint.timestamp
  let expectedAverage := average e.datapoints
  let expectedClassification :=
    Utilization.classification e.datapointCount e.minimumDatapoints expectedAverage
      e.idleThresholdPercent
  let averageMatches : Bool := match expectedAverage, e.averageCpuPercent with
    | none, none => true
    | some x, some y => PyFloat.isclose y x
    | _, _ => false
  if ¬ (60 ≤ e.periodSeconds ∧ e.periodSeconds ≤ 3600) then some "period_seconds"
  else if e.minimumDatapoints = 0 then some "minimum_datapoints"
  else if !isPercent e.idleThresholdPercent then some "idle_threshold_percent"
  else if !e.averageCpuPercent.all isPercent then some "average_cpu_percent"
  else if e.windowEnd ≤ e.windowStart then some "metric window_start must precede window_end"
  else if e.collectedAt < e.windowEnd then some "collected_at must not precede window_end"
  else if e.datapointCount ≠ e.datapoints.length then
    some "datapoint_count does not match datapoints"
  else if ¬ (timestamps.Pairwise (· ≤ ·) ∧ timestamps.Nodup) then
    some "datapoints must be uniquely and chronologically ordered"
  else if timestamps.any fun t => t < e.windowStart || e.windowEnd < t then
    some "datapoint is outside the requested metric window"
  else if !averageMatches then
    some (if expectedAverage.isNone then "empty evidence cannot contain an average"
      else "average_cpu_percent does not match datapoints")
  else if e.classification ≠ expectedClassification then
    some "classification does not match deterministic idle policy"
  else if e.evidenceDigest ≠ canonicalDigest e.evidencePayload then
    some "evidence_digest does not match utilization evidence"
  else none

end EvidenceFields

structure UtilizationEvidence (F : Type) [PyFloat F] [Sha256] extends EvidenceFields F where
  valid : toEvidenceFields.violation = none

/-! ## The service -/

/-- What `read` raises, by class, with its message where it has one. -/
inductive UtilizationError where
  | contractValidation (message : String)
  | scope (message : String)
  | dependency (message failureCode : String) (retryable : Bool)
  | evidence (message : String)
  /-- `ValidationError` of pydantic. -/
  | validation (message : String)
  | overflow
  /-- An error of the classification of an error. -/
  | unclassified

/-- The class that was raised. -/
inductive ErrorClass where
  | contractValidation | scope | dependency | evidence | validation | overflow | unclassified
  deriving DecidableEq

def UtilizationError.errorClass : UtilizationError → ErrorClass
  | contractValidation _ => .contractValidation
  | scope _ => .scope
  | dependency _ _ _ => .dependency
  | evidence _ => .evidence
  | validation _ => .validation
  | overflow => .overflow
  | unclassified => .unclassified

/-- A datapoint's `Timestamp`: no aware `datetime`, or one, and whether its offset is zero. -/
inductive RawTimestamp where
  | malformed
  | aware (time : Time) (utc : Bool)

/-- A datapoint's `Average`. -/
inductive RawAverage (F : Type) where
  | bool (b : Bool)
  | int (i : Int)
  | float (x : F)
  | other

inductive RawPoint (F : Type) where
  | notMapping
  | mapping (timestamp : RawTimestamp) (average : RawAverage F) (unit : Json)

/-- What CloudWatch returned. -/
inductive Response (F : Type) where
  | notMapping
  | noList
  | datapoints (points : List (RawPoint F))

/-- What the retried call raises. -/
inductive ReadFailure where
  | circuitOpen
  | circuitStateUnavailable
  /-- With what `is_known_transient_read_error` says of it. -/
  | raised (transient : Option Bool)

/-- What `read` uses of an inspection. -/
structure InstanceInspection where
  identity : InvestigationIdentity
  instanceId : String
  region : String
  sandboxTagKey : String
  sandboxTagValue : String

structure SandboxTarget where
  instanceId : String
  region : String
  requiredTagKey : String
  requiredTagValue : String

structure IdlePolicySettings (F : Type) [PyFloat F] where
  observationWindowMinutes : Nat
  periodSeconds : Nat
  minimumDatapoints : Nat
  cpuIdleThresholdPercent : F
  window_ok : 0 < observationWindowMinutes ∧ observationWindowMinutes ≤ 24 * 60
  period_ok : 60 ≤ periodSeconds ∧ periodSeconds ≤ 3600 ∧
    periodSeconds ∣ observationWindowMinutes * 60
  minimum_ok : 0 < minimumDatapoints ∧
    minimumDatapoints ≤ observationWindowMinutes * 60 / periodSeconds
  threshold_ok : isPercent cpuIdleThresholdPercent

/-- `float(value)` of a value that is a number and no `bool`; `none` inside for its overflow. -/
def RawAverage.float? : RawAverage F → Option (Option F)
  | int i => some (PyFloat.ofInt i)
  | float x => some (some x)
  | _ => none

/-- One step of the loop of `_normalize_datapoints`. -/
def normalizePoint (windowStart windowEnd : Time) :
    RawPoint F → Except UtilizationError (MetricDatapoint F)
  | .notMapping => .error (.evidence "CloudWatch datapoint is malformed")
  | .mapping .malformed _ _ =>
    .error (.evidence "CloudWatch datapoint timestamp is malformed")
  | .mapping (.aware time utc) value unit =>
    if !utc then .error (.evidence "CloudWatch datapoint timestamp must use UTC")
    else if ¬ (windowStart ≤ time ∧ time ≤ windowEnd) then
      .error (.evidence "CloudWatch datapoint is outside the requested window")
    else if unit.str? ≠ some "Percent" then
      .error (.evidence "CloudWatch datapoint unit is not Percent")
    else match value.float? with
      | none => .error (.evidence "CloudWatch CPU value is malformed")
      | some none => .error .overflow
      | some (some x) =>
        if !PyFloat.isfinite x then .error (.evidence "CloudWatch CPU value is malformed")
        else if h : isPercent x then .ok ⟨time, x, h⟩
        else .error (.evidence "CloudWatch CPU value is outside bounds")

/-- `sort(key=lambda point: point.timestamp)`. -/
def sorted (points : List (MetricDatapoint F)) : List (MetricDatapoint F) :=
  points.insertionSort fun p q => p.timestamp ≤ q.timestamp

/-- `_normalize_datapoints`. -/
def normalizeDatapoints (response : Response F) (windowStart windowEnd : Time) :
    Except UtilizationError (List (MetricDatapoint F)) :=
  match response with
  | .notMapping => .error (.evidence "CloudWatch response is malformed")
  | .noList => .error (.evidence "CloudWatch Datapoints is missing or malformed")
  | .datapoints points => do
    let normalized := sorted (← points.mapM (normalizePoint windowStart windowEnd))
    if ¬ (normalized.map MetricDatapoint.timestamp).Nodup then
      .error (.evidence "CloudWatch datapoints contain duplicate timestamps")
    else return normalized

/-- `UtilizationEvidence.create`. -/
def create [Sha256] (identity : InvestigationIdentity) (instanceId : String)
    (windowStart windowEnd : Time) (policy : IdlePolicySettings F)
    (datapoints : List (MetricDatapoint F)) (collectedAt : Time) :
    Except UtilizationError (UtilizationEvidence F) :=
  let ordered := sorted datapoints
  let averageCpuPercent := average ordered
  -- the digest is of the other fields
  let provisional : EvidenceFields F :=
    { identity, instanceId, windowStart, windowEnd, periodSeconds := policy.periodSeconds
      minimumDatapoints := policy.minimumDatapoints
      idleThresholdPercent := policy.cpuIdleThresholdPercent, datapoints := ordered
      datapointCount := ordered.length, averageCpuPercent
      classification := classification ordered.length policy.minimumDatapoints averageCpuPercent
        policy.cpuIdleThresholdPercent
      collectedAt, evidenceDigest := ⟨0⟩ }
  let fields : EvidenceFields F :=
    { provisional with evidenceDigest := canonicalDigest provisional.evidencePayload }
  match h : fields.violation with
  | none => .ok { fields with valid := h }
  | some message => .error (.validation message)

/-- `ReadUtilizationMetricsService`, its client and its retry aside. -/
structure ReadUtilizationMetricsService (F : Type) [PyFloat F] where
  target : SandboxTarget
  policy : IdlePolicySettings F

/-- `read`, with what the retried call returns or raises. -/
def ReadUtilizationMetricsService.read [Sha256] (service : ReadUtilizationMetricsService F)
    (inspection : InstanceInspection) (identity : InvestigationIdentity) (collectedAt : Reading)
    (call : Except ReadFailure (Response F)) : Except UtilizationError (UtilizationEvidence F) :=
  let window := seconds (service.policy.observationWindowMinutes * 60)
  if inspection.identity ≠ identity then
    .error (.scope "inspection identity does not match this run")
  else if inspection.instanceId ≠ service.target.instanceId ∨
      inspection.region ≠ service.target.region ∨
      inspection.sandboxTagKey ≠ service.target.requiredTagKey ∨
      inspection.sandboxTagValue ≠ service.target.requiredTagValue then
    .error (.scope "inspection does not prove the configured sandbox")
  else if !collectedAt.utc then .error (.contractValidation "collected_at must use UTC")
  else if collectedAt.time < window then .error .overflow
  else match call with
    | .error .circuitOpen => .error (.dependency
        "CloudWatch read is suppressed by the dependency circuit" "CLOUDWATCH_READ_CIRCUIT_OPEN"
        false)
    | .error .circuitStateUnavailable => .error (.dependency
        "CloudWatch dependency circuit state is unavailable" "CLOUDWATCH_READ_CIRCUIT_UNAVAILABLE"
        false)
    | .error (.raised (some transient)) => .error (.dependency
        "CloudWatch utilization dependency is unavailable" "CLOUDWATCH_UNAVAILABLE" transient)
    | .error (.raised none) => .error .unclassified
    | .ok response => do
      let windowStart := collectedAt.time - window
      let datapoints ← normalizeDatapoints response windowStart collectedAt.time
      create identity inspection.instanceId windowStart collectedAt.time service.policy datapoints
        collectedAt.time

/-! ## Order -/

/-- A datapoint whose `Average` is within float range, where it is a number. -/
def InRange (p : RawPoint F) : Prop :=
  match p with
  | .mapping _ (.int i) _ => (PyFloat.ofInt i : Option F).isSome
  | _ => True

/-- A point is refused with an evidence error, whatever is wrong with it. -/
theorem normalizePoint_error {windowStart windowEnd : Time} {p : RawPoint F}
    {e : UtilizationError} (hp : InRange p)
    (h : normalizePoint windowStart windowEnd p = .error e) : e.errorClass = .evidence := by
  rcases p with _ | ⟨timestamp, value, unit⟩
  · cases h
    rfl
  rcases timestamp with _ | ⟨time, utc⟩
  · cases h
    rfl
  rw [normalizePoint] at h
  split at h
  · cases h
    rfl
  split at h
  · cases h
    rfl
  split at h
  · cases h
    rfl
  split at h
  · cases h
    rfl
  · next hfloat =>
    -- only an integer beyond the range has no float
    cases value with
    | int i =>
      have hnone : (PyFloat.ofInt i : Option F) = none := Option.some.inj hfloat
      have hsome : (PyFloat.ofInt i : Option F).isSome := hp
      rw [hnone] at hsome
      cases hsome
    | bool b => cases hfloat
    | float x => cases hfloat
    | other => cases hfloat
  · split at h
    · cases h
      rfl
    · split at h
      · cases h
      · cases h
        rfl

section MapM

variable {α β ε : Type} {f : α → Except ε β} {l l' : List α}

/-- A loop in which nothing is refused. -/
theorem mapM_ok (h : ∀ a ∈ l, ∃ b, f a = .ok b) :
    l.mapM f = .ok (l.filterMap fun a => (f a).toOption) := by
  induction l with
  | nil => rfl
  | cons a l ih =>
    rw [List.forall_mem_cons] at h
    obtain ⟨⟨b, hb⟩, hl⟩ := h
    rw [List.mapM_cons, ih hl, hb, List.filterMap_cons, hb]
    rfl

/-- A loop stops at an element that is refused. -/
theorem mapM_error (h : ∃ a ∈ l, ∃ e, f a = .error e) :
    ∃ a ∈ l, ∃ e, f a = .error e ∧ l.mapM f = .error e := by
  induction l with
  | nil =>
    obtain ⟨a, ha, -⟩ := h
    cases ha
  | cons a l ih =>
    rw [List.mapM_cons]
    cases ha : f a with
    | error e => exact ⟨a, List.mem_cons_self .., e, ha, rfl⟩
    | ok b =>
      obtain ⟨x, hx, e, he⟩ := h
      rcases List.mem_cons.1 hx with rfl | hx
      · rw [ha] at he
        cases he
      · obtain ⟨y, hy, e', he', hl⟩ := ih ⟨x, hx, e, he⟩
        refine ⟨y, List.mem_cons_of_mem _ hy, e', he', ?_⟩
        rw [hl]
        rfl

/-- **A loop over a permutation** ends with the same elements in another order, or is refused too. -/
theorem mapM_perm (hperm : l.Perm l') :
    (∃ r r', l.mapM f = .ok r ∧ l'.mapM f = .ok r' ∧ r.Perm r') ∨
    ∃ a ∈ l, ∃ a' ∈ l, ∃ e e', f a = .error e ∧ f a' = .error e' ∧
      l.mapM f = .error e ∧ l'.mapM f = .error e' := by
  by_cases hall : ∀ a ∈ l, ∃ b, f a = .ok b
  · have hall' : ∀ a ∈ l', ∃ b, f a = .ok b := fun a ha => hall a (hperm.symm.subset ha)
    exact .inl ⟨_, _, mapM_ok hall, mapM_ok hall', hperm.filterMap _⟩
  · have hsome : ∃ a ∈ l, ∃ e, f a = .error e := by
      by_contra hno
      refine hall fun a ha => ?_
      cases hf : f a with
      | ok b => exact ⟨b, rfl⟩
      | error e => exact absurd ⟨a, ha, e, hf⟩ hno
    obtain ⟨x, hx, e₀, he₀⟩ := hsome
    obtain ⟨a, ha, e, he, hl⟩ := mapM_error ⟨x, hx, e₀, he₀⟩
    obtain ⟨a', ha', e', he', hl'⟩ := mapM_error (l := l') ⟨x, hperm.subset hx, e₀, he₀⟩
    exact .inr ⟨a, ha, a', hperm.symm.subset ha', e, e', he, he', hl, hl'⟩

end MapM

/-- Points at distinct times are sorted into one list. -/
theorem sorted_perm {l l' : List (MetricDatapoint F)} (hperm : l.Perm l')
    (hn : (l.map MetricDatapoint.timestamp).Nodup) : sorted l = sorted l' := by
  have trans : IsTrans (MetricDatapoint F) fun p q => p.timestamp ≤ q.timestamp :=
    ⟨fun _ _ _ => Nat.le_trans⟩
  have total : Std.Total fun p q : MetricDatapoint F => p.timestamp ≤ q.timestamp :=
    ⟨fun p q => Nat.le_total p.timestamp q.timestamp⟩
  have ordered : ∀ l : List (MetricDatapoint F),
      (sorted l).Pairwise fun p q => p.timestamp ≤ q.timestamp :=
    fun l => List.pairwise_insertionSort _ l
  refine List.Perm.eq_of_pairwise ?_ (ordered l) (ordered l')
    ((List.perm_insertionSort _ l).trans (hperm.trans (List.perm_insertionSort _ l').symm))
  intro p q hp hq hpq hqp
  rw [sorted, List.mem_insertionSort] at hp hq
  exact List.inj_on_of_nodup_map hn hp (hperm.symm.subset hq) (Nat.le_antisymm hpq hqp)

/-- The same result, or an error of the same class. -/
def SameOutcome {α : Type} (x y : Except UtilizationError α) : Prop :=
  match x, y with
  | .ok a, .ok b => a = b
  | .error e, .error e' => e.errorClass = e'.errorClass
  | _, _ => False

theorem SameOutcome.refl {α : Type} (x : Except UtilizationError α) : SameOutcome x x := by
  cases x <;> rfl

theorem SameOutcome.bind {α β : Type} {x y : Except UtilizationError α}
    {f : α → Except UtilizationError β} (h : SameOutcome x y) : SameOutcome (x >>= f) (y >>= f) := by
  rcases x with e | a
  · rcases y with e' | b
    · exact h
    · cases h
  · rcases y with e' | b
    · cases h
    · obtain rfl : a = b := h
      exact .refl _

theorem normalizeDatapoints_perm {points points' : List (RawPoint F)} {windowStart windowEnd : Time}
    (hperm : points.Perm points') (hrange : ∀ p ∈ points, InRange p) :
    SameOutcome (normalizeDatapoints (.datapoints points) windowStart windowEnd)
      (normalizeDatapoints (.datapoints points') windowStart windowEnd) := by
  rcases mapM_perm (f := normalizePoint windowStart windowEnd) hperm with
    ⟨r, r', hr, hr', hrperm⟩ | ⟨a, ha, a', ha', e, e', he, he', hl, hl'⟩
  · have keys : ∀ l : List (MetricDatapoint F),
        ((sorted l).map MetricDatapoint.timestamp).Nodup ↔
          (l.map MetricDatapoint.timestamp).Nodup := fun l =>
      ((List.perm_insertionSort _ l).map _).nodup_iff
    simp only [normalizeDatapoints, hr, hr', bind, Except.bind, keys]
    have hkeys : (r.map MetricDatapoint.timestamp).Nodup ↔
        (r'.map MetricDatapoint.timestamp).Nodup := (hrperm.map _).nodup_iff
    by_cases hn : (r.map MetricDatapoint.timestamp).Nodup
    · rw [if_neg (not_not_intro hn), if_neg (not_not_intro (hkeys.1 hn))]
      exact sorted_perm hrperm hn
    · rw [if_pos hn, if_pos (mt hkeys.2 hn)]
      exact .refl _
  · simp only [normalizeDatapoints, hl, hl', bind, Except.bind]
    exact (normalizePoint_error (hrange a ha) he).trans
      (normalizePoint_error (hrange a' ha') he').symm

/-- **Utilization evidence does not depend on the order of the datapoints**: a permutation gives the
    same evidence, or an error of the same class. -/
theorem read_perm [Sha256] (service : ReadUtilizationMetricsService F)
    (inspection : InstanceInspection) (identity : InvestigationIdentity) (collectedAt : Reading)
    {points points' : List (RawPoint F)} (hperm : points.Perm points')
    (hrange : ∀ p ∈ points, InRange p) :
    SameOutcome (service.read inspection identity collectedAt (.ok (.datapoints points)))
      (service.read inspection identity collectedAt (.ok (.datapoints points'))) := by
  unfold ReadUtilizationMetricsService.read
  dsimp only
  split
  · exact .refl _
  split
  · exact .refl _
  split
  · exact .refl _
  split
  · exact .refl _
  · exact (normalizeDatapoints_perm hperm hrange).bind

namespace Sample

/-- Floats that are whole numbers. -/
abbrev whole : PyFloat Nat where
  ofInt i := some i.toNat
  isfinite _ := true
  le x y := x ≤ y
  fsum := List.sum
  divNat x n := x / n
  round6 x := x
  isclose x y := x = y
  zero := 0
  hundred := 100
  repr x := toString x ++ ".0"

attribute [local instance] whole

def identity : InvestigationIdentity := ⟨⟨1, 0, 0⟩, ⟨2, 0, 0⟩, ⟨3, 0, 0⟩⟩

def service : ReadUtilizationMetricsService Nat where
  target := ⟨"i-0123456789abcdef0", "eu-central-1", "Environment", "sandbox"⟩
  policy :=
    { observationWindowMinutes := 60, periodSeconds := 300, minimumDatapoints := 2
      cpuIdleThresholdPercent := 10, window_ok := by decide, period_ok := by decide
      minimum_ok := by decide, threshold_ok := rfl }

def inspection : InstanceInspection where
  identity := identity
  instanceId := "i-0123456789abcdef0"
  region := "eu-central-1"
  sandboxTagKey := "Environment"
  sandboxTagValue := "sandbox"

/-- An average of `i` percent, `n` seconds after the first day. -/
def point (n : Nat) (i : Int) : RawPoint Nat :=
  .mapping (.aware (seconds (86400 + n)) true) (.int i) (.str "Percent")

/-- Two datapoints, the later one first. -/
theorem read_swapped :
    SameOutcome
      (@ReadUtilizationMetricsService.read Nat whole Sha256.standard service inspection identity
        ⟨seconds 87000, true⟩ (.ok (.datapoints [point 300 20, point 0 10])))
      (@ReadUtilizationMetricsService.read Nat whole Sha256.standard service inspection identity
        ⟨seconds 87000, true⟩ (.ok (.datapoints [point 0 10, point 300 20]))) :=
  @read_perm Nat whole Sha256.standard service inspection identity ⟨seconds 87000, true⟩ _ _
    (.swap ..) (List.forall_mem_cons.2 ⟨rfl, List.forall_mem_singleton.2 rfl⟩)

end Sample

end Utilization

end CloudOpsAgent
