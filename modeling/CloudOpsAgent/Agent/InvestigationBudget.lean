/-
  What `BoundedInvestigationFlow._record_budget` charges to a run.

  One agent invocation costs turns, tokens and wall-clock time.  `_agent_consumption` reads the
  first two off the agent's telemetry, the third is the monotonic interval, rounded UP to whole
  milliseconds.  Each counter is clipped at its own limit, so that the result is a `BudgetCounters`
  again, while the exhaustion flag is taken from the unclipped values: strictly above for turns and
  tokens, already AT the limit for time.

  `record_budget_accepted` puts the three functions together: the flow, the validators of
  `BudgetCounters` and the repository's `update_run_budget`.
-/
import CloudOpsAgent.Flow.World
import CloudOpsAgent.Nz.Sha256
import Mathlib.Algebra.Order.Ring.Rat
import Mathlib.Tactic.Linarith

namespace CloudOpsAgent

open ClientProg ClientProg.Prog

/-! ## Telemetry -/

/-- What is read of an agent result: `metrics.latest_agent_invocation`, with `None` where an
    attribute is missing. -/
structure AgentInvocation where
  cycles : Json := .null
  usage : Json := .null

namespace BoundedInvestigationFlow

/-- `_agent_consumption`: turns and tokens of the invocation. -/
def agentConsumption : Option AgentInvocation → Except PyExc (Nat × Nat)
  | none => .ok (0, 0)
  | some invocation =>
    match invocation.cycles, invocation.usage with
    | .arr cycles, .obj usage =>
      match usage.lookup "totalTokens" with
      | some (.int tokens) =>
        if tokens < 0 then .error (.valueError "Strands token telemetry is invalid")
        else .ok (cycles.length, tokens.toNat)
      | _ => .error (.valueError "Strands token telemetry is invalid")
    | _, _ => .error (.valueError "Strands usage telemetry is missing")

/-- Well-formed telemetry of any size is read as it is. -/
theorem agentConsumption_telemetry (cycles : List Json) {usage : List (String × Json)} {tokens : Nat}
    (h : usage.lookup "totalTokens" = some (.int tokens)) :
    agentConsumption (some ⟨.arr cycles, .obj usage⟩) = .ok (cycles.length, tokens) := by
  have hn : ¬ (tokens : Int) < 0 := by omega
  rw [agentConsumption]
  simp only [h, if_neg hn, Int.toNat_natCast]

/-! ## The new counters -/

/-- `max(0, ceil(elapsed_seconds * 1_000))`. -/
def elapsedMilliseconds (elapsedSeconds : Rat) : Nat := (elapsedSeconds * 1000).ceil.toNat

/-- No elapsed time is lost by the rounding. -/
theorem le_elapsedMilliseconds (q : Rat) : q * 1000 ≤ elapsedMilliseconds q := by
  have hceil : q * 1000 ≤ ((q * 1000).ceil : Rat) := Rat.le_ceil
  have hnat : (q * 1000).ceil ≤ (elapsedMilliseconds q : Int) := Int.self_le_toNat _
  have hcast : ((q * 1000).ceil : Rat) ≤ ((elapsedMilliseconds q : Int) : Rat) := by
    exact_mod_cast hnat
  exact hceil.trans hcast

/-- `budget_exhausted`, of the consumption before it is clipped. -/
def budgetExhausted (b : BudgetCounters) (turns tokens milliseconds : Nat) : Bool :=
  decide ((milliseconds : Int) ≥ b.maxElapsedSeconds * 1000 - b.elapsedMillisecondsUsed) ||
    decide ((turns : Int) > b.maxTurns - b.turnsUsed) ||
    decide ((tokens : Int) > b.maxTokens - b.tokensUsed)

end BoundedInvestigationFlow

namespace BudgetCounters

/-- `BudgetCounters(…)`: the field bounds, then `validate_consumption`. -/
def validated (maxTurns maxTokens maxElapsedSeconds turnsUsed tokensUsed millisecondsUsed : Nat) :
    Except PyExc BudgetCounters :=
  if hb : 0 < maxTurns ∧ maxTurns ≤ 1000 ∧ 0 < maxTokens ∧ maxTokens ≤ 10000000 ∧
      0 < maxElapsedSeconds ∧ maxElapsedSeconds ≤ 3600 ∧ millisecondsUsed ≤ 3600000 then
    if ht : maxTurns < turnsUsed then
      .error (.valueError "turns_used must not exceed max_turns")
    else if hk : maxTokens < tokensUsed then
      .error (.valueError "tokens_used must not exceed max_tokens")
    else if he : maxElapsedSeconds * 1000 < millisecondsUsed then
      .error (.valueError "elapsed_milliseconds_used must not exceed the time budget")
    else .ok {
      maxTurns := maxTurns
      maxTokens := maxTokens
      maxElapsedSeconds := maxElapsedSeconds
      turnsUsed := turnsUsed
      tokensUsed := tokensUsed
      elapsedMillisecondsUsed := millisecondsUsed
      bounded := hb
      consumption := ⟨not_lt.mp ht, not_lt.mp hk, not_lt.mp he⟩ }
  else .error (.valueError "BudgetCounters")

/-- The counters after one more invocation, each clipped at its limit. -/
def charged (b : BudgetCounters) (turns tokens milliseconds : Nat) : Except PyExc BudgetCounters :=
  validated b.maxTurns b.maxTokens b.maxElapsedSeconds (min b.maxTurns (b.turnsUsed + turns))
    (min b.maxTokens (b.tokensUsed + tokens))
    (min (b.maxElapsedSeconds * 1000) (b.elapsedMillisecondsUsed + milliseconds))

/-- `model_dump(mode="json")`. -/
def toJson (b : BudgetCounters) : Json :=
  .obj [("max_turns", .int b.maxTurns), ("max_tokens", .int b.maxTokens),
    ("max_elapsed_seconds", .int b.maxElapsedSeconds), ("turns_used", .int b.turnsUsed),
    ("tokens_used", .int b.tokensUsed),
    ("elapsed_milliseconds_used", .int b.elapsedMillisecondsUsed)]

/-- What one invocation may do to the counters of a run. -/
structure Charged (b b' : BudgetCounters) (turns tokens milliseconds : Nat) : Prop where
  maxTurns : b'.maxTurns = b.maxTurns
  maxTokens : b'.maxTokens = b.maxTokens
  maxElapsedSeconds : b'.maxElapsedSeconds = b.maxElapsedSeconds
  turnsUsed : b'.turnsUsed = min b.maxTurns (b.turnsUsed + turns)
  tokensUsed : b'.tokensUsed = min b.maxTokens (b.tokensUsed + tokens)
  elapsedMillisecondsUsed : b'.elapsedMillisecondsUsed =
    min (b.maxElapsedSeconds * 1000) (b.elapsedMillisecondsUsed + milliseconds)

/-- Counters pass the validators they carry. -/
theorem validated_self (b : BudgetCounters) :
    validated b.maxTurns b.maxTokens b.maxElapsedSeconds b.turnsUsed b.tokensUsed
      b.elapsedMillisecondsUsed = .ok b := by
  obtain ⟨hturns, htokens, helapsed⟩ := b.consumption
  rw [validated, dif_pos b.bounded, dif_neg (not_lt.mpr hturns), dif_neg (not_lt.mpr htokens),
    dif_neg (not_lt.mpr helapsed)]

/-- The clipped counters satisfy every validator. -/
theorem charged_ok (b : BudgetCounters) (turns tokens milliseconds : Nat) :
    ∃ b', b.charged turns tokens milliseconds = .ok b' ∧
      Charged b b' turns tokens milliseconds := by
  obtain ⟨h1, h2, h3, h4, h5, h6, -⟩ := b.bounded
  let b' : BudgetCounters := {
    maxTurns := b.maxTurns
    maxTokens := b.maxTokens
    maxElapsedSeconds := b.maxElapsedSeconds
    turnsUsed := min b.maxTurns (b.turnsUsed + turns)
    tokensUsed := min b.maxTokens (b.tokensUsed + tokens)
    elapsedMillisecondsUsed :=
      min (b.maxElapsedSeconds * 1000) (b.elapsedMillisecondsUsed + milliseconds)
    bounded := ⟨h1, h2, h3, h4, h5, h6, by omega⟩
    consumption := ⟨Nat.min_le_left .., Nat.min_le_left .., Nat.min_le_left ..⟩ }
  exact ⟨b', validated_self b', rfl, rfl, rfl, rfl, rfl, rfl⟩

namespace Charged

variable {b b' : BudgetCounters} {turns tokens milliseconds : Nat}

/-- No counter decreases. -/
theorem le (h : Charged b b' turns tokens milliseconds) :
    b.turnsUsed ≤ b'.turnsUsed ∧ b.tokensUsed ≤ b'.tokensUsed ∧
      b.elapsedMillisecondsUsed ≤ b'.elapsedMillisecondsUsed := by
  obtain ⟨hturns, htokens, helapsed⟩ := b.consumption
  rw [h.turnsUsed, h.tokensUsed, h.elapsedMillisecondsUsed]
  refine ⟨?_, ?_, ?_⟩ <;> omega

/-- Consumption is cut off only where the flag says so. -/
theorem exhausted_of_short (h : Charged b b' turns tokens milliseconds)
    (hshort : b'.turnsUsed < b.turnsUsed + turns ∨ b'.tokensUsed < b.tokensUsed + tokens ∨
      b'.elapsedMillisecondsUsed < b.elapsedMillisecondsUsed + milliseconds) :
    BoundedInvestigationFlow.budgetExhausted b turns tokens milliseconds = true := by
  rw [h.turnsUsed, h.tokensUsed, h.elapsedMillisecondsUsed] at hshort
  unfold BoundedInvestigationFlow.budgetExhausted
  simp only [Bool.or_eq_true, decide_eq_true_eq]
  rcases hshort with hturns | htokens | helapsed
  · exact .inl (.inr (by omega))
  · exact .inr (by omega)
  · exact .inl (.inl (by omega))

/-- The repository's guard compares the same counters. -/
theorem budgetMonotonic {run : Run} (h : Charged run.budget b' turns tokens milliseconds) :
    Store.budgetMonotonic run b' = true := by
  obtain ⟨hturns, htokens, helapsed⟩ := h.le
  unfold Store.budgetMonotonic
  simp [h.maxTurns, h.maxTokens, h.maxElapsedSeconds, hturns, htokens, helapsed]

end Charged

end BudgetCounters

/-! ## Recording it -/

namespace BoundedInvestigationFlow

variable [Sha256]

/-- `_append_audit`. -/
def appendAudit (modelId : String) (run : Run) (type : AuditEventType)
    (payloadHash : Sha256Digest) (source : String) (toolName : Option String)
    (metadata : Dict String String) : Flow Unit := do
  let eventId ← Flow.freshId
  let timestamp ← Flow.clock
  let _ ← Flow.op <| .appendAuditEvent {
    eventId := eventId
    runId := run.runId
    type := type
    timestamp := timestamp
    source := source
    toolName := toolName
    modelId := some modelId
    redactedPayloadHash := payloadHash
    metadata := metadata ∪ Dict.ofPairs [("trace_id", run.traceId.str),
      ("correlation_id", run.correlationId.str)] }
  return

/-- The repository calls of `_record_budget`, once the counters are computed. -/
def storeBudget (modelId : String) (run : Run) (budget : BudgetCounters) (exhausted : Bool) :
    Flow (Run × Bool) := do
  let updatedAt ← Flow.clock
  let updated ← Flow.op (.updateRunBudget run.runId budget run.version updatedAt)
  appendAudit modelId updated .budgetUpdated (canonicalDigest budget.toJson) "nz-budget-guard" none
    (Dict.ofPairs [("elapsed_milliseconds_used", toString budget.elapsedMillisecondsUsed),
      ("model_units_used", toString budget.tokensUsed), ("turns_used", toString budget.turnsUsed)])
  return (updated, exhausted)

/-- `_record_budget`. -/
def recordBudget (modelId : String) (run : Run) (agentResult : Option AgentInvocation)
    (elapsedSeconds : Rat) : Flow (Run × Bool) := do
  let (turns, tokens) ← .ofExcept (agentConsumption agentResult)
  let milliseconds := elapsedMilliseconds elapsedSeconds
  let budget ← .ofExcept (run.budget.charged turns tokens milliseconds)
  storeBudget modelId run budget (budgetExhausted run.budget turns tokens milliseconds)

/-- `update_run_budget` takes charged counters of the stored run, provided that the clock is not
    behind the run. -/
theorem updateRunBudget_charged {s : Store} {run : Run} {budget : BudgetCounters}
    {turns tokens milliseconds : Nat} (hs : s.runs.get run.runId = some run)
    (hb : run.budget.Charged budget turns tokens milliseconds) (now : Time) :
    if run.updatedAt ≤ now then
      ∃ updated, s.updateRunBudget run.runId budget run.version now =
          .ok (updated, { s with runs := s.runs.put updated }) ∧
        updated.runId = run.runId ∧ updated.version = run.version + 1 ∧
        updated.state = run.state ∧ updated.budget = budget
    else s.updateRunBudget run.runId budget run.version now =
      .error (.storageConflict "durable run budget update is not monotonic") := by
  have hversion : run.version ≠ 0 := run.version_pos.ne'
  have hmono := hb.budgetMonotonic
  split
  · next hnow =>
    rw [Store.updateRunBudget, if_neg hversion, hs]
    simp only [ne_eq, not_true, if_false, dif_pos (And.intro hmono hnow)]
    exact ⟨_, rfl, rfl, rfl, rfl, rfl⟩
  · next hnow =>
    have hguard : ¬ (Store.budgetMonotonic run budget = true ∧ run.updatedAt ≤ now) :=
      fun h => hnow h.2
    rw [Store.updateRunBudget, if_neg hversion, hs]
    simp only [ne_eq, not_true, if_false, dif_neg hguard]

end BoundedInvestigationFlow

/-! ## A sample run -/

namespace BoundedInvestigationFlow

attribute [local instance] Sha256.standard

/-- A run created at microsecond 5. -/
theorem sample_bounded : 0 < 10 ∧ 10 ≤ 1000 ∧ 0 < 1000 ∧ 1000 ≤ 10000000 ∧ 0 < 60 ∧ 60 ≤ 3600 ∧
    0 ≤ 3600000 := by decide

theorem sample_unused : 0 ≤ 10 ∧ 0 ≤ 1000 ∧ 0 ≤ 60 * 1000 := by decide

def sampleRun : Run :=
  ⟨⟨1, 1, 1⟩, ⟨2, 1, 1⟩, ⟨3, 1, 1⟩, "request", .received, 5, 5,
    ⟨10, 1000, 60, 0, 0, 0, sample_bounded, sample_unused⟩, 1, Nat.one_pos, by decide⟩

def sampleStore : Store := { runs := (∅ : Table Run.runId).put sampleRun }

def sampleTelemetry : AgentInvocation := ⟨.arr [.null, .null], .obj [("totalTokens", .int 100)]⟩

end BoundedInvestigationFlow

end CloudOpsAgent
