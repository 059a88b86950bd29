/-
  Daily judge quotas: the repository that reserves in one conditional DynamoDB update, and the
  in-memory one.

  The update compares the stored counters with ceilings worked out beforehand, and an attribute the
  item does not have yet counts as zero; the in-memory repository adds first and compares the sums.

  1. **Days** — the sort key of the table is the text of the date, and no two dates share one.

  2. **The two repositories**, each over its own store.

  3. **Clients** — a reservation reads the clock and updates later, and other clients come between
     (`QuotaSystem.Reachable`).

  4. **One step** keeps the two stores in agreement (`SameTotals`), so every interleaving of clients is
     a sequence of in-memory reservations (`quota_stores_agree`).
-/
import CloudOpsAgent.Nz.Isoformat
import Mathlib.Tactic.Ring

namespace CloudOpsAgent

/-! ## Days -/

/-- A UTC `datetime`. -/
structure UtcDatetime where
  instant : Time
  le_max : instant ≤ Time.datetimeMax

/-- `date`: the days since 0001-01-01. -/
structure Date where
  days : Nat
  lt_end : days < 3652059
  deriving DecidableEq

theorem days_lt {t : Nat} (h : t ≤ Time.datetimeMax) : t / 86400000000 < 3652059 := by
  have hmax : t ≤ 315537897599999999 := h
  omega

def UtcDatetime.date (t : UtcDatetime) : Date := ⟨t.instant / 86400000000, days_lt t.le_max⟩

namespace Date

def isoformat (d : Date) : String :=
  let (year, month, day) := Time.civil d.days
  String.ofList (Time.padded year 4 ++ '-' :: Time.padded month 2 ++ '-' :: Time.padded day 2)

/-- Midnight is written with the date's text. -/
theorem isoformat_midnight (d : Date) : Time.isoformat (d.days * 86400000000) =
    d.isoformat ++ String.ofList "T00:00:00+00:00".toList := by
  have hdays : d.days * 86400000000 / 86400000000 = d.days := by omega
  have hus : d.days * 86400000000 % 86400000000 = 0 := by omega
  unfold Time.isoformat Time.clockText isoformat
  rw [hdays, hus, ← String.ofList_append]
  obtain ⟨year, month, day⟩ := Time.civil d.days
  congr 1

theorem isoformat_inj {d d' : Date} (h : d.isoformat = d'.isoformat) : d = d' := by
  have bound : ∀ d : Date, d.days * 86400000000 ≤ Time.datetimeMax := by
    intro d
    have := d.lt_end
    unfold Time.datetimeMax
    omega
  have hread := Time.fromisoformat_isoformat (bound d)
  rw [isoformat_midnight, h, ← isoformat_midnight, Time.fromisoformat_isoformat (bound d')] at hread
  have hdays : d'.days * 86400000000 = d.days * 86400000000 := Option.some.inj hread
  have : d.days = d'.days := by omega
  cases d
  cases d'
  congr

end Date

/-! ## The two repositories -/

/-- A conservative hard reservation cap applied before any Bedrock call. -/
structure JudgeQuotaPolicy where
  maxRequestsPerDay : Int := 20
  maxReservedTokensPerDay : Int := 163840
  maxReservedCostMicrousdPerDay : Int := 1000000
  tokensPerRequest : Int := 8192
  costMicrousdPerRequest : Int := 50000
  positive : 0 < maxRequestsPerDay ∧ 0 < maxReservedTokensPerDay ∧
    0 < maxReservedCostMicrousdPerDay ∧ 0 < tokensPerRequest ∧ 0 < costMicrousdPerRequest
  tokens_le : tokensPerRequest ≤ maxReservedTokensPerDay
  cost_le : costMicrousdPerRequest ≤ maxReservedCostMicrousdPerDay

/-- Sanitized durable totals after one accepted reservation. -/
structure JudgeQuotaReservation where
  day : Date
  requests : Int
  reservedTokens : Int
  reservedCostMicrousd : Int
  deriving DecidableEq

structure InMemoryJudgeQuotaRepository where
  policy : JudgeQuotaPolicy
  totals : Date → Option JudgeQuotaReservation := fun _ => none

def InMemoryJudgeQuotaRepository.reserve (r : InMemoryJudgeQuotaRepository) (now : UtcDatetime) :
    Option JudgeQuotaReservation × InMemoryJudgeQuotaRepository :=
  let day := now.date
  let policy := r.policy
  let current := (r.totals day).getD ⟨day, 0, 0, 0⟩
  let candidate : JudgeQuotaReservation :=
    { day := day
      requests := current.requests + 1
      reservedTokens := current.reservedTokens + policy.tokensPerRequest
      reservedCostMicrousd := current.reservedCostMicrousd + policy.costMicrousdPerRequest }
  if candidate.requests > policy.maxRequestsPerDay ∨
      candidate.reservedTokens > policy.maxReservedTokensPerDay ∨
      candidate.reservedCostMicrousd > policy.maxReservedCostMicrousdPerDay then (none, r)
  else (some candidate, { r with totals := Function.update r.totals day (some candidate) })

/-- A DynamoDB attribute value: `S` or `N`. -/
inductive AttributeValue where
  | s (text : String)
  | n (number : Int)
  deriving DecidableEq

/-- An item by attribute name.  One that does not exist has no attributes. -/
abbrev Item := String → Option AttributeValue

/-- A table by partition and sort key. -/
abbrev QuotaTable := String × String → Item

namespace Item

/-- `attribute_not_exists(name) OR name ⋈ bound`; values of another type never compare. -/
def absentOr (item : Item) (name : String) (holds : Int → Bool) : Bool :=
  match item name with
  | none => true
  | some (.n number) => holds number
  | some (.s _) => false

/-- `if_not_exists(name, :zero) + increment`, which is refused on a text. -/
def plus? (item : Item) (name : String) (increment : Int) : Option Int :=
  match item name with
  | none => some (0 + increment)
  | some (.n number) => some (number + increment)
  | some (.s _) => none

/-- `int(attributes[name]["N"])`. -/
def int? (item : Item) (name : String) : Option Int :=
  match item name with
  | some (.n number) => some number
  | _ => none

end Item

/-- `StorageDependencyError`, with its text. -/
structure QuotaUnavailable where
  message : String
  deriving DecidableEq

namespace DynamoDbJudgeQuotaRepository

variable (policy : JudgeQuotaPolicy)

def key (day : Date) : String × String := ("JUDGE_QUOTA#" ++ day.isoformat, "DAILY")

/-- The `ConditionExpression`. -/
def condition (item : Item) : Bool :=
  item.absentOr "requests" (· < policy.maxRequestsPerDay) &&
  item.absentOr "reserved_tokens"
    (· ≤ policy.maxReservedTokensPerDay - policy.tokensPerRequest) &&
  item.absentOr "reserved_cost_microusd"
    (· ≤ policy.maxReservedCostMicrousdPerDay - policy.costMicrousdPerRequest)

/-- The `UpdateExpression`. -/
def update? (item : Item) : Option Item := do
  let requests ← item.plus? "requests" 1
  let tokens ← item.plus? "reserved_tokens" policy.tokensPerRequest
  let cost ← item.plus? "reserved_cost_microusd" policy.costMicrousdPerRequest
  return fun name =>
    if name = "requests" then some (.n requests)
    else if name = "reserved_tokens" then some (.n tokens)
    else if name = "reserved_cost_microusd" then some (.n cost)
    else if name = "entity_type" then some ((item name).getD (.s "JUDGE_DAILY_QUOTA"))
    else item name

/-- The totals an item's attributes spell. -/
def reservation? (day : Date) (attributes : Item) : Option JudgeQuotaReservation := do
  let requests ← attributes.int? "requests"
  let reservedTokens ← attributes.int? "reserved_tokens"
  let reservedCostMicrousd ← attributes.int? "reserved_cost_microusd"
  return ⟨day, requests, reservedTokens, reservedCostMicrousd⟩

/-- `reserve` from `update_item` on, the clock having been read. -/
def reserve (now : UtcDatetime) (table : QuotaTable) :
    Except QuotaUnavailable (Option JudgeQuotaReservation) × QuotaTable :=
  let day := now.date
  let item := table (key day)
  if !condition policy item then (.ok none, table)
  else match update? policy item with
    | none => (.error ⟨"judge quota reservation is unavailable"⟩, table)
    | some attributes =>
      let table := Function.update table (key day) attributes
      match reservation? day attributes with
      | none => (.error ⟨"judge quota response is malformed"⟩, table)
      | some reservation => (.ok (some reservation), table)

variable {policy} in
/-- A refused update changes nothing. -/
theorem refused_unchanged {now : UtcDatetime} {table : QuotaTable}
    (h : (reserve policy now table).1 = .ok none) : (reserve policy now table).2 = table := by
  unfold reserve at h ⊢
  dsimp only at h ⊢
  by_cases hc : !condition policy (table (key now.date))
  · rw [if_pos hc]
  · rw [if_neg hc] at h
    split at h
    · simp at h
    · split at h
      · simp at h
      · simp at h

theorem key_inj {day day' : Date} (h : key day = key day') : day = day' := by
  have htext := congrArg (String.toList ·.1) h
  simp only [key, String.toList_append] at htext
  exact Date.isoformat_inj (String.toList_inj.mp (List.append_cancel_left htext))

end DynamoDbJudgeQuotaRepository

/-! ## Clients -/

/-- A reservation, with what it returned. -/
abbrev Entry := UtcDatetime × Except QuotaUnavailable (Option JudgeQuotaReservation)

def Entry.accepted (e : Entry) : Bool :=
  match e.2 with
  | .ok (some _) => true
  | _ => false

/-- A table and its clients: the clock reading of each one that is about to update, and every
    reservation made so far with what it returned, the latest last. -/
structure QuotaSystem (ι : Type) where
  table : QuotaTable
  reading : ι → Option UtcDatetime := fun _ => none
  log : List Entry := []

namespace QuotaSystem

variable {ι : Type} [DecidableEq ι]

/-- One step of one client. -/
inductive Step (policy : JudgeQuotaPolicy) : QuotaSystem ι → QuotaSystem ι → Prop
  | clock {s : QuotaSystem ι} {i : ι} (now : UtcDatetime) (h : s.reading i = none) :
    Step policy s { s with reading := Function.update s.reading i (some now) }
  | update {s : QuotaSystem ι} {i : ι} {now : UtcDatetime} (h : s.reading i = some now) :
    Step policy s
      { table := (DynamoDbJudgeQuotaRepository.reserve policy now s.table).2
        reading := Function.update s.reading i none
        log := s.log ++ [(now, (DynamoDbJudgeQuotaRepository.reserve policy now s.table).1)] }

/-- Any interleaving of clients, on a table without quota items. -/
inductive Reachable (policy : JudgeQuotaPolicy) : QuotaSystem ι → Prop
  | start {table : QuotaTable}
    (h : ∀ day, table (DynamoDbJudgeQuotaRepository.key day) = fun _ => none) :
    Reachable policy { table := table }
  | step {s s' : QuotaSystem ι} (h : Reachable policy s) (hs : Step policy s s') :
    Reachable policy s'

end QuotaSystem

/-! ## One step -/

open DynamoDbJudgeQuotaRepository

variable {policy : JudgeQuotaPolicy} {table : QuotaTable} {r : InMemoryJudgeQuotaRepository}

/-- The two stores hold the same totals: the item of a day without a reservation does not exist. -/
def SameTotals (table : QuotaTable) (r : InMemoryJudgeQuotaRepository) : Prop :=
  ∀ day, match r.totals day with
    | none => table (key day) = fun _ => none
    | some total => total.day = day ∧
      table (key day) "requests" = some (.n total.requests) ∧
      table (key day) "reserved_tokens" = some (.n total.reservedTokens) ∧
      table (key day) "reserved_cost_microusd" = some (.n total.reservedCostMicrousd)

/-- The condition is the in-memory test, read on the item. -/
theorem quota_condition_iff (h : SameTotals table r) (day : Date) :
    condition policy (table (key day)) ↔
      let current := (r.totals day).getD ⟨day, 0, 0, 0⟩
      current.requests + 1 ≤ policy.maxRequestsPerDay ∧
      current.reservedTokens + policy.tokensPerRequest ≤ policy.maxReservedTokensPerDay ∧
      current.reservedCostMicrousd + policy.costMicrousdPerRequest ≤
        policy.maxReservedCostMicrousdPerDay := by
  have hday := h day
  obtain ⟨⟨h1, h2, h3, h4, h5⟩, htokens, hcost⟩ := And.intro policy.positive
    (And.intro policy.tokens_le policy.cost_le)
  cases ht : r.totals day with
  | none =>
    -- no item: the ceilings of a valid policy are not negative
    simp only [ht] at hday
    simp only [condition, Item.absentOr, hday, Option.getD_none]
    constructor
    · intro _
      exact ⟨by omega, by omega, by omega⟩
    · intro _
      rfl
  | some total =>
    simp only [ht] at hday
    obtain ⟨-, hr, ht, hc⟩ := hday
    simp only [condition, Item.absentOr, hr, ht, hc, Option.getD_some, Bool.and_eq_true,
      decide_eq_true_eq]
    omega

/-- What the update stores, and returns. -/
theorem quota_update_spec (h : SameTotals table r) (day : Date) :
    let current := (r.totals day).getD ⟨day, 0, 0, 0⟩
    ∃ attributes, update? policy (table (key day)) = some attributes ∧
      attributes "requests" = some (.n (current.requests + 1)) ∧
      attributes "reserved_tokens" =
        some (.n (current.reservedTokens + policy.tokensPerRequest)) ∧
      attributes "reserved_cost_microusd" =
        some (.n (current.reservedCostMicrousd + policy.costMicrousdPerRequest)) := by
  have hday := h day
  cases ht : r.totals day with
  | none =>
    simp only [ht] at hday
    simp only [update?, Item.plus?, hday, Option.getD_none]
    exact ⟨_, rfl, rfl, rfl, rfl⟩
  | some total =>
    simp only [ht] at hday
    obtain ⟨-, hr, ht, hc⟩ := hday
    simp only [update?, Item.plus?, hr, ht, hc, Option.getD_some]
    exact ⟨_, rfl, rfl, rfl, rfl⟩

/-- **One reservation**: the two repositories return the same, and still agree. -/
theorem SameTotals.reserve (h : SameTotals table r) (now : UtcDatetime) :
    (DynamoDbJudgeQuotaRepository.reserve r.policy now table).1 = .ok (r.reserve now).1 ∧
    SameTotals (DynamoDbJudgeQuotaRepository.reserve r.policy now table).2 (r.reserve now).2 := by
  have hcond : condition r.policy (table (key now.date)) ↔ _ := quota_condition_iff h now.date
  obtain ⟨attributes, hupdate, hr, ht, hc⟩ :
      ∃ attributes, update? r.policy (table (key now.date)) = some attributes ∧ _ :=
    quota_update_spec h now.date
  unfold DynamoDbJudgeQuotaRepository.reserve InMemoryJudgeQuotaRepository.reserve
  dsimp only at hcond hr ht hc ⊢
  generalize (r.totals now.date).getD ⟨now.date, 0, 0, 0⟩ = current at hcond hr ht hc ⊢
  by_cases hholds : condition r.policy (table (key now.date))
  · obtain ⟨h1, h2, h3⟩ := hcond.1 hholds
    rw [if_neg (by simp [hholds]), if_neg (by omega), hupdate]
    have hread : reservation? now.date attributes = some ⟨now.date, current.requests + 1,
        current.reservedTokens + r.policy.tokensPerRequest,
        current.reservedCostMicrousd + r.policy.costMicrousdPerRequest⟩ := by
      simp [reservation?, Item.int?, hr, ht, hc]
    dsimp only
    rw [hread]
    refine ⟨rfl, fun day => ?_⟩
    by_cases hd : day = now.date
    · subst hd
      simp only [Function.update_self]
      exact ⟨trivial, hr, ht, hc⟩
    · have hk : key day ≠ key now.date := fun hk => hd (key_inj hk)
      simp only [Function.update_of_ne hd, Function.update_of_ne hk]
      exact h day
  · have hover : ¬ (current.requests + 1 ≤ r.policy.maxRequestsPerDay ∧
        current.reservedTokens + r.policy.tokensPerRequest ≤ r.policy.maxReservedTokensPerDay ∧
        current.reservedCostMicrousd + r.policy.costMicrousdPerRequest ≤
          r.policy.maxReservedCostMicrousdPerDay) := fun hover => hholds (hcond.2 hover)
    rw [if_pos (by simp [hholds]), if_pos (by omega)]
    exact ⟨rfl, h⟩

/-- The totals an item spells are the in-memory ones. -/
theorem SameTotals.reservation? (h : SameTotals table r) (day : Date) :
    reservation? day (table (key day)) = r.totals day := by
  have hday := h day
  cases ht : r.totals day with
  | none =>
    simp only [ht] at hday
    rw [hday]
    rfl
  | some total =>
    simp only [ht] at hday
    obtain ⟨rfl, hr, ht, hc⟩ := hday
    simp [DynamoDbJudgeQuotaRepository.reservation?, Item.int?, hr, ht, hc]

/-- What a reservation does in memory. -/
theorem InMemoryJudgeQuotaRepository.reserve_cases (r : InMemoryJudgeQuotaRepository)
    (now : UtcDatetime) :
    r.reserve now = (none, r) ∨
    ∃ total, r.reserve now = (some total, { r with
        totals := Function.update r.totals now.date (some total) }) ∧
      let current := (r.totals now.date).getD ⟨now.date, 0, 0, 0⟩
      total.requests = current.requests + 1 ∧
      total.reservedTokens = current.reservedTokens + r.policy.tokensPerRequest ∧
      total.reservedCostMicrousd = current.reservedCostMicrousd + r.policy.costMicrousdPerRequest ∧
      total.requests ≤ r.policy.maxRequestsPerDay ∧
      total.reservedTokens ≤ r.policy.maxReservedTokensPerDay ∧
      total.reservedCostMicrousd ≤ r.policy.maxReservedCostMicrousdPerDay := by
  unfold reserve
  dsimp only
  split
  · exact .inl rfl
  · next hcaps =>
    push Not at hcaps
    exact .inr ⟨_, rfl, rfl, rfl, rfl, hcaps⟩

/-! ## Runs -/

/-- A sequence of reservations, and what they return. -/
def InMemoryJudgeQuotaRepository.reserveAll (r : InMemoryJudgeQuotaRepository) :
    List UtcDatetime → List (Option JudgeQuotaReservation) × InMemoryJudgeQuotaRepository
  | [] => ([], r)
  | now :: rest =>
    let (result, r) := r.reserve now
    let (results, r) := r.reserveAll rest
    (result :: results, r)

theorem InMemoryJudgeQuotaRepository.reserveAll_concat (r : InMemoryJudgeQuotaRepository)
    (times : List UtcDatetime) (now : UtcDatetime) :
    r.reserveAll (times ++ [now]) =
      ((r.reserveAll times).1 ++ [((r.reserveAll times).2.reserve now).1],
        ((r.reserveAll times).2.reserve now).2) := by
  induction times generalizing r with
  | nil => rfl
  | cons t times ih =>
    simp only [List.cons_append, reserveAll]
    rw [ih]

namespace QuotaSystem

/-- The reservations of a day that were accepted. -/
def acceptedOn (day : Date) (log : List Entry) : List Entry :=
  log.filter fun e => e.1.date = day ∧ e.accepted

/-- What the in-memory totals say of the reservations accepted so far. -/
def Counted (log : List Entry) (r : InMemoryJudgeQuotaRepository) : Prop :=
  ∀ day, let total := (r.totals day).getD ⟨day, 0, 0, 0⟩
    let n : Int := (acceptedOn day log).length
    total.requests = n ∧
    total.reservedTokens = n * r.policy.tokensPerRequest ∧
    total.reservedCostMicrousd = n * r.policy.costMicrousdPerRequest ∧
    total.requests ≤ r.policy.maxRequestsPerDay ∧
    total.reservedTokens ≤ r.policy.maxReservedTokensPerDay ∧
    total.reservedCostMicrousd ≤ r.policy.maxReservedCostMicrousdPerDay

theorem Counted.start (policy : JudgeQuotaPolicy) : Counted [] { policy := policy } := by
  intro day
  obtain ⟨h1, h2, h3, -⟩ := policy.positive
  simp only [Option.getD_none, acceptedOn, List.filter_nil, List.length_nil]
  exact ⟨rfl, by simp, by simp, h1.le, h2.le, h3.le⟩

theorem Counted.reserve {log : List Entry} (h : Counted log r) (now : UtcDatetime) :
    Counted (log ++ [(now, .ok (r.reserve now).1)]) (r.reserve now).2 := by
  have split : ∀ day (e : Entry), acceptedOn day (log ++ [e]) =
      acceptedOn day log ++ acceptedOn day [e] := fun day e => by
    simp only [acceptedOn, List.filter_append]
  rcases r.reserve_cases now with he | ⟨total, he, hr, ht, hc, caps⟩
  · intro day
    have none : acceptedOn day [(now, .ok (r.reserve now).1)] = [] := by
      simp [acceptedOn, Entry.accepted, he]
    rw [split, none, List.append_nil, he]
    exact h day
  · intro day
    by_cases hd : day = now.date
    · subst hd
      have one : (acceptedOn now.date [(now, .ok (r.reserve now).1)]).length = 1 := by
        simp [acceptedOn, Entry.accepted, he]
      obtain ⟨h1, h2, h3, -⟩ := h now.date
      rw [split, he] at *
      simp only [List.length_append, Function.update_self, Option.getD_some]
      rw [one]
      refine ⟨by rw [hr, h1]; rfl, ?_, ?_, caps⟩
      · rw [ht, h2]
        push_cast
        ring
      · rw [hc, h3]
        push_cast
        ring
    · have none : acceptedOn day [(now, .ok (r.reserve now).1)] = [] := by
        simp [acceptedOn, Ne.symm hd]
      rw [split, none, List.append_nil, he]
      simp only [Function.update_of_ne hd]
      exact h day

variable {ι : Type} [DecidableEq ι] {s s' : QuotaSystem ι}

/-- A system and the in-memory repository that has made the same reservations. -/
structure Linked (policy : JudgeQuotaPolicy) (s : QuotaSystem ι) : Prop where
  policy_eq : (InMemoryJudgeQuotaRepository.reserveAll { policy := policy }
    (s.log.map Prod.fst)).2.policy = policy
  results : s.log.map Prod.snd = (InMemoryJudgeQuotaRepository.reserveAll { policy := policy }
    (s.log.map Prod.fst)).1.map .ok
  agrees : SameTotals s.table (InMemoryJudgeQuotaRepository.reserveAll { policy := policy }
    (s.log.map Prod.fst)).2
  counted : Counted s.log (InMemoryJudgeQuotaRepository.reserveAll { policy := policy }
    (s.log.map Prod.fst)).2

theorem Linked.step (h : Linked policy s) (hs : Step policy s s') : Linked policy s' := by
  cases hs with
  | clock now hidle => exact ⟨h.policy_eq, h.results, h.agrees, h.counted⟩
  | @update i now hread =>
    obtain ⟨hpolicy, hresults, hagrees, hcounted⟩ := h
    have hlog : (s.log ++ [(now, (DynamoDbJudgeQuotaRepository.reserve policy now s.table).1)]).map
        Prod.fst = s.log.map Prod.fst ++ [now] := by simp
    generalize hrun : InMemoryJudgeQuotaRepository.reserveAll { policy := policy }
      (s.log.map Prod.fst) = run at hpolicy hresults hagrees hcounted
    obtain ⟨hsame, hkept⟩ := hagrees.reserve now
    rw [hpolicy] at hsame hkept
    constructor
    · show (InMemoryJudgeQuotaRepository.reserveAll _ (List.map _ _)).2.policy = _
      rw [hlog, InMemoryJudgeQuotaRepository.reserveAll_concat, hrun]
      rcases run.2.reserve_cases now with he | ⟨total, he, -⟩
      · rw [he]
        exact hpolicy
      · rw [he]
        exact hpolicy
    · show List.map _ _ = (InMemoryJudgeQuotaRepository.reserveAll _ (List.map _ _)).1.map _
      rw [hlog, InMemoryJudgeQuotaRepository.reserveAll_concat, hrun, List.map_append, hresults,
        List.map_append, hsame]
      rfl
    · show SameTotals _ (InMemoryJudgeQuotaRepository.reserveAll _ (List.map _ _)).2
      rw [hlog, InMemoryJudgeQuotaRepository.reserveAll_concat, hrun]
      exact hkept
    · show Counted _ (InMemoryJudgeQuotaRepository.reserveAll _ (List.map _ _)).2
      rw [hlog, InMemoryJudgeQuotaRepository.reserveAll_concat, hrun, hsame]
      exact hcounted.reserve now

theorem Reachable.linked (h : Reachable policy s) : Linked policy s := by
  induction h with
  | start h => exact ⟨rfl, rfl, h, .start policy⟩
  | step _ hs ih => exact ih.step hs

/-- One request a day. -/
def samplePolicy : JudgeQuotaPolicy :=
  { maxRequestsPerDay := 1, positive := by decide, tokens_le := by decide, cost_le := by decide }

end QuotaSystem

end CloudOpsAgent
