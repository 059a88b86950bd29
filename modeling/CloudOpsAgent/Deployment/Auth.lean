/-
  Header-only authorization for the read-only judge routes.

  A caller sends `Authorization: Bearer <token>`, and the token is compared with the one in Secrets
  Manager.  Names of headers are folded into one dictionary, in the order of the mapping:

      headers ─ casefold ─→ dictionary ─ "authorization" ─→ Bearer candidate ─ get_token ─→ compare

  1. **The provider** — one secret, read through a cache; what it returns is always a token that was
     validated (`getToken_valid`).

  2. **The authorizer** — on any mapping and any provider.

  3. **Exactness** — when it admits exactly the callers with one header and the token, and never
     raises (`authorize_exact_iff`).
-/
import CloudOpsAgent.Nz.Contracts
import CloudOpsAgent.Nz.Isoformat
import CloudOpsAgent.Lib.PyText

namespace CloudOpsAgent

open PyText

/-! ## The provider -/

def judgeTokenMinLength : Nat := 32
def judgeTokenMaxLength : Nat := 512
def judgeTokenMaxLifetimeSeconds : Nat := 86400

/-- `_JudgeTokenSecret`: validated text encodes. -/
structure JudgeTokenSecret where
  token : Text
  notAfter : Reading
  length_ok : judgeTokenMinLength ≤ token.length ∧ token.length ≤ judgeTokenMaxLength
  encodes : (encode token).isSome

structure SecretsManagerJudgeTokenProvider where
  notAfter : Time
  cacheTtlSeconds : Nat := 60
  cachedToken : Option Text := none
  cacheExpiresAt : Option Time := none
  ttl_ok : 5 ≤ cacheTtlSeconds ∧ cacheTtlSeconds ≤ 300

namespace SecretsManagerJudgeTokenProvider

/-- `get_token`, with what the clock and the secret store give, `none` where they raise; a result
    `none` is an `Exception`.  The sum of `now` and the cache's lifetime may be out of range, after
    the token is cached. -/
def getToken (p : SecretsManagerJudgeTokenProvider) (now : Option Reading)
    (secret : Option JudgeTokenSecret) : Option Text × SecretsManagerJudgeTokenProvider :=
  match now with
  | none => (none, p)
  | some now =>
    if !now.utc then (none, p)
    else if p.notAfter ≤ now.time ∨ now.time + seconds judgeTokenMaxLifetimeSeconds < p.notAfter then
      (none, p)
    else if p.cachedToken.isSome ∧ p.cacheExpiresAt.any (now.time < ·) then (p.cachedToken, p)
    else match secret with
      | none => (none, p)
      | some secret =>
        if !secret.notAfter.utc ∨ secret.notAfter.time ≠ p.notAfter then (none, p)
        else
          let p := { p with cachedToken := some secret.token }
          if Time.datetimeMax < now.time + seconds p.cacheTtlSeconds then (none, p)
          else (some secret.token, { p with
            cacheExpiresAt := some (min (now.time + seconds p.cacheTtlSeconds) p.notAfter) })

/-- A token as the secret's model validates it. -/
def ValidToken (t : Text) : Prop :=
  judgeTokenMinLength ≤ t.length ∧ t.length ≤ judgeTokenMaxLength ∧ (encode t).isSome

/-- What is in the cache was validated. -/
def Valid (p : SecretsManagerJudgeTokenProvider) : Prop := ∀ t ∈ p.cachedToken, ValidToken t

/-- `get_token` returns a validated token, and leaves one in the cache, if any. -/
theorem getToken_valid {p : SecretsManagerJudgeTokenProvider} (h : p.Valid) (now : Option Reading)
    (secret : Option JudgeTokenSecret) :
    (∀ t ∈ (p.getToken now secret).1, ValidToken t) ∧ (p.getToken now secret).2.Valid := by
  have nothing : ∀ t ∈ (none : Option Text), ValidToken t := fun t ht => by simp at ht
  cases now with
  | none => exact ⟨nothing, h⟩
  | some now =>
    unfold getToken
    dsimp only
    split
    · exact ⟨nothing, h⟩
    · split
      · exact ⟨nothing, h⟩
      · split
        · exact ⟨h, h⟩
        · split
          · exact ⟨nothing, h⟩
          · next secret =>
            have fresh : ∀ t ∈ some secret.token, ValidToken t := by
              intro t ht
              obtain rfl := Option.some.inj ht
              exact ⟨secret.length_ok.1, secret.length_ok.2, secret.encodes⟩
            split
            · exact ⟨nothing, h⟩
            · split
              · exact ⟨nothing, fresh⟩
              · exact ⟨fresh, fresh⟩

end SecretsManagerJudgeTokenProvider

/-! ## The authorizer -/

/-- A header's value: text, or any other object. -/
inductive HeaderValue where
  | text (t : Text)
  | other

/-- A mapping in its order; a key `none` is no text. -/
abbrev Headers := List (Option Text × HeaderValue)

/-- What a provider's `get_token` does: return a text, return an object that has no `encode`, or
    raise. -/
inductive TokenOutcome where
  | token (t : Text)
  | other
  | raised (isException : Bool)

/-- What escapes `authorize`. -/
inductive AuthorizeError where
  /-- `UnicodeEncodeError`. -/
  | unicodeEncode
  /-- `AttributeError`. -/
  | attribute
  /-- What the provider raised, and is no `Exception`. -/
  | raised
  deriving DecidableEq

/-- Server-derived identity; no caller-supplied actor field is trusted. -/
structure AuthenticatedJudgePrincipal where
  subject : String := "judge-token-principal"
  deriving DecidableEq

namespace JudgeTokenAuthorizer

-- `str.casefold` is a parameter: all that counts is which names it takes to "authorization".
variable (casefold : Text → Text)

/-- The dictionary of the headers: a later one replaces an earlier one whose name folds alike. -/
def normalized (headers : Headers) : Text → Option HeaderValue :=
  headers.foldl
    (fun d (name, value) => match name with
      | some name => Function.update d (casefold name) (some value)
      | none => d)
    fun _ => none

/-- The checks before the provider is asked. -/
def candidate? (headers : Headers) : Option Text :=
  match normalized casefold headers (ofString "authorization") with
  | some (.text value) =>
    match afterPrefix (ofString "Bearer ") value with
    | none => none
    | some candidate =>
      if candidate.length < judgeTokenMinLength ∨ !PyText.isStripped candidate ∨
          judgeTokenMaxLength < candidate.length then none
      else some candidate
  | _ => none

local instance decideBytes : DecidableEq ByteArray := ByteArray.instDecidableEq

/-- `authorize`; both sides are encoded before they are compared. -/
def authorize (headers : Headers) (getToken : TokenOutcome) :
    Except AuthorizeError (Option AuthenticatedJudgePrincipal) :=
  match candidate? casefold headers with
  | none => .ok none
  | some candidate =>
    match getToken with
    | .raised isException => if isException then .ok none else .error .raised
    | .other => if (encode candidate).isNone then .error .unicodeEncode else .error .attribute
    | .token expected =>
      match encode candidate, encode expected with
      | some given, some expected => if given = expected then .ok (some {}) else .ok none
      | _, _ => .error .unicodeEncode

/-! ## Exactness -/

/-- The headers whose name is "authorization", ignoring case. -/
def authorizations (headers : Headers) : Headers :=
  headers.filter fun h => h.1.any fun name => casefold name = ofString "authorization"

/-- The caller has exactly one such header, with the provider's token. -/
def Entitled (headers : Headers) (getToken : TokenOutcome) : Prop :=
  ∃ name t, getToken = .token t ∧
    authorizations casefold headers = [(name, .text (ofString "Bearer " ++ t))] ∧
    judgeTokenMinLength ≤ t.length ∧ t.length ≤ judgeTokenMaxLength ∧ PyText.isStripped t

/-- `authorize` does not raise, and admits the entitled. -/
def Exact (headers : Headers) (getToken : TokenOutcome) : Prop :=
  ∃ r, authorize casefold headers getToken = .ok r ∧
    (r.isSome ↔ Entitled casefold headers getToken)

variable {casefold} {headers : Headers} {getToken : TokenOutcome}

/-- The dictionary has the last of the headers. -/
theorem normalized_eq : normalized casefold headers (ofString "authorization") =
    ((authorizations casefold headers).getLast?).map (·.2) := by
  have fold : ∀ (headers : Headers) (d : Text → Option HeaderValue),
      headers.foldl (fun d (name, value) => match name with
        | some name => Function.update d (casefold name) (some value)
        | none => d) d (ofString "authorization") =
      (((authorizations casefold headers).getLast?).map (·.2)).or (d (ofString "authorization")) := by
    intro headers
    induction headers with
    | nil => exact fun d => rfl
    | cons h headers ih =>
      intro d
      rw [List.foldl_cons, ih]
      obtain ⟨name, value⟩ := h
      cases name with
      | none => rfl
      | some name =>
        by_cases hn : casefold name = ofString "authorization"
        · have here : authorizations casefold ((some name, value) :: headers) =
              (some name, value) :: authorizations casefold headers :=
            List.filter_cons_of_pos (by simp [hn])
          rw [here, List.getLast?_cons]
          dsimp only
          rw [hn]
          cases (authorizations casefold headers).getLast? with
          | none => simp
          | some last => simp
        · have skip : authorizations casefold ((some name, value) :: headers) =
              authorizations casefold headers := List.filter_cons_of_neg (by simp [hn])
          rw [skip]
          simp [Function.update_of_ne (Ne.symm hn)]
  simpa [normalized] using fold headers fun _ => none

theorem candidate?_eq_some {t : Text} : candidate? casefold headers = some t ↔
    ∃ name, (authorizations casefold headers).getLast? =
        some (name, .text (ofString "Bearer " ++ t)) ∧
      judgeTokenMinLength ≤ t.length ∧ t.length ≤ judgeTokenMaxLength ∧ PyText.isStripped t := by
  unfold candidate?
  rw [normalized_eq]
  rcases hl : (authorizations casefold headers).getLast? with _ | ⟨name, value⟩
  · simp
  · cases value with
    | other => simp
    | text v =>
      simp only [Option.map_some, Option.some.injEq, Prod.mk.injEq, HeaderValue.text.injEq]
      cases hv : afterPrefix (ofString "Bearer ") v with
      | none =>
        constructor
        · intro h
          simp at h
        · rintro ⟨_, ⟨-, rfl⟩, -⟩
          rw [afterPrefix_eq_some.2 rfl] at hv
          simp at hv
      | some candidate =>
        obtain rfl := afterPrefix_eq_some.1 hv
        simp only [List.append_cancel_left_eq]
        split
        · next hbad =>
          constructor
          · intro h
            simp at h
          · rintro ⟨_, ⟨-, rfl⟩, hmin, hmax, hs⟩
            rcases hbad with h | h | h
            · omega
            · simp [hs] at h
            · omega
        · next hgood =>
          simp only [not_or, Nat.not_lt, Bool.not_eq_true', Bool.not_eq_false] at hgood
          obtain ⟨hmin, hs, hmax⟩ := hgood
          constructor
          · intro h
            obtain rfl := Option.some.inj h
            exact ⟨name, ⟨rfl, rfl⟩, hmin, hmax, hs⟩
          · rintro ⟨_, ⟨-, rfl⟩, -⟩
            rfl

/-- Inputs on which nothing goes wrong once a candidate is to be compared: the provider raises an
    `Exception`, or gives a text, both sides encode, and a candidate that is the token comes in the
    only header of its name. -/
def Comparable (casefold : Text → Text) (headers : Headers) (getToken : TokenOutcome) : Prop :=
  ∀ name t, (authorizations casefold headers).getLast? =
      some (name, .text (ofString "Bearer " ++ t)) →
    judgeTokenMinLength ≤ t.length → t.length ≤ judgeTokenMaxLength → PyText.isStripped t →
    match getToken with
    | .raised isException => isException
    | .other => False
    | .token expected => (encode t).isSome ∧ (encode expected).isSome ∧
        (t = expected → (authorizations casefold headers).length = 1)

theorem not_entitled_of_none (h : candidate? casefold headers = none) :
    ¬ Entitled casefold headers getToken := by
  rintro ⟨name, t, -, hone, hmin, hmax, hs⟩
  have := candidate?_eq_some.2 ⟨name, by rw [hone]; rfl, hmin, hmax, hs⟩
  rw [h] at this
  simp at this

/-- The entitled caller's candidate is the token, and its header the only one. -/
theorem entitled_iff {t : Text} (h : candidate? casefold headers = some t) :
    Entitled casefold headers getToken ↔
      getToken = .token t ∧ (authorizations casefold headers).length = 1 := by
  obtain ⟨name, hlast, hmin, hmax, hs⟩ := candidate?_eq_some.1 h
  constructor
  · rintro ⟨name', t', hget, hone, -⟩
    rw [hone] at hlast
    simp only [List.getLast?_singleton, Option.some.injEq, Prod.mk.injEq, HeaderValue.text.injEq,
      List.append_cancel_left_eq] at hlast
    obtain ⟨-, rfl⟩ := hlast
    exact ⟨hget, by rw [hone]; rfl⟩
  · rintro ⟨hget, hlen⟩
    obtain ⟨h', hone⟩ := List.length_eq_one_iff.1 hlen
    rw [hone] at hlast
    obtain rfl := Option.some.inj hlast
    exact ⟨name, t, hget, hone, hmin, hmax, hs⟩

/-- **Judge authorization is exact, and when**: `authorize` never raises and admits exactly the
    caller with one `Authorization` header and the token, if and only if the candidate it compares
    is comparable with what the provider does. -/
theorem authorize_exact_iff :
    Exact casefold headers getToken ↔ Comparable casefold headers getToken := by
  have comparable : ∀ {P : Text → Prop}, (∀ name t,
      (authorizations casefold headers).getLast? = some (name, .text (ofString "Bearer " ++ t)) →
      judgeTokenMinLength ≤ t.length → t.length ≤ judgeTokenMaxLength → PyText.isStripped t → P t) ↔
      ∀ t, candidate? casefold headers = some t → P t := by
    intro P
    constructor
    · intro h t ht
      obtain ⟨name, hlast, hmin, hmax, hs⟩ := candidate?_eq_some.1 ht
      exact h name t hlast hmin hmax hs
    · intro h name t hlast hmin hmax hs
      exact h t (candidate?_eq_some.2 ⟨name, hlast, hmin, hmax, hs⟩)
  rw [Comparable, comparable]
  unfold Exact authorize
  cases hc : candidate? casefold headers with
  | none =>
    refine iff_of_true ⟨none, rfl, ?_⟩ fun t ht => by simp at ht
    simp [not_entitled_of_none hc]
  | some t =>
    simp only [Option.some.injEq, forall_eq', entitled_iff hc]
    cases getToken with
    | raised isException => cases isException <;> simp
    | other => cases h : encode t <;> simp
    | token expected =>
      cases ht : encode t with
      | none => simp
      | some given =>
        cases he : encode expected with
        | none => simp [he]
        | some known =>
          by_cases hg : given = known
          · subst hg
            obtain rfl := encode_inj ht he
            simp [he]
          · have hne : t ≠ expected := by
              rintro rfl
              rw [ht] at he
              exact hg (Option.some.inj he)
            simp [he, hg, hne, Ne.symm hne]

/-- What the provider of the deployment does, seen from the authorizer. -/
def outcome (token : Option Text) : TokenOutcome := token.elim (.raised true) .token

/-- With that provider, two things can go wrong: the candidate has no encoding, or it is the token
    and another spelling of the name stands before it. -/
theorem provider_exact_iff {p : SecretsManagerJudgeTokenProvider} (h : p.Valid)
    (now : Option Reading) (secret : Option JudgeTokenSecret) :
    Exact casefold headers (outcome (p.getToken now secret).1) ↔
      ∀ name t, (authorizations casefold headers).getLast? =
          some (name, .text (ofString "Bearer " ++ t)) →
        judgeTokenMinLength ≤ t.length → t.length ≤ judgeTokenMaxLength → PyText.isStripped t →
        ∀ token ∈ (p.getToken now secret).1, (encode t).isSome ∧
          (t = token → (authorizations casefold headers).length = 1) := by
  have valid := (SecretsManagerJudgeTokenProvider.getToken_valid h now secret).1
  rw [authorize_exact_iff, Comparable]
  cases hg : (p.getToken now secret).1 with
  | none => simp [outcome]
  | some token =>
    have encodes : (encode token).isSome := (valid token hg).2.2
    simp [outcome, encodes]

/-- A token for samples. -/
def sampleToken : Text := List.replicate 32 (.char 'k')

/-- Two spellings of one name, a wrong value and the right one. -/
def twice : Headers :=
  [(some (ofString "Authorization"), .text (ofString "Bearer none")),
    (some (ofString "authorization"), .text (ofString "Bearer " ++ sampleToken))]

/-- ASCII letters, lowered. -/
def lower (t : Text) : Text :=
  t.map fun
    | .char c => .char c.toLower
    | p => p

/-- The second spelling replaces the first, and the caller is admitted. -/
theorem twice_admitted : ¬ ∀ headers getToken, Exact lower headers getToken := by
  intro h
  obtain ⟨r, hr, hiff⟩ := h twice (.token sampleToken)
  have admitted : authorize lower twice (.token sampleToken) = .ok (some {}) := by decide
  rw [admitted] at hr
  obtain rfl := Except.ok.inj hr
  obtain ⟨name, t, -, hone, -⟩ := hiff.1 rfl
  have two := congrArg List.length hone
  simp [authorizations, twice, lower, ofString] at two

end JudgeTokenAuthorizer

end CloudOpsAgent
