/-
  Header-only authentication of the loopback operator API.

  One local token is the credential, presented as it is or, by a browser, as the session cookie that
  was issued for it:

      "authorization" in headers ── yes ─→ Bearer candidate ─ digest ─→ compare
                                 └─ no ──→ segments of the cookie ─ the one session ─→ compare

  1. **Candidates** — what the headers offer: a Bearer candidate of valid shape, the value of the
     only session cookie (`scanCookie_none`).

  2. **The authorizer** — what `__init__` derives from a token; a Bearer candidate is encoded, which
     raises on a lone surrogate, and its digest is compared with the token's.

  3. **What is accepted** — by either way (`authorizeBearer_ok`, `authorizeCookie_ok`).
-/
import CloudOpsAgent.Deployment.Auth
import CloudOpsAgent.Nz.Mapping
import CloudOpsAgent.Nz.Sha256
import CloudOpsAgent.Persistence.Codec
import CloudOpsAgent.Agent.LocalHitl

namespace PyText

/-! ## Cutting texts -/

/-- `text.strip()`. -/
def stripSpaces (t : Text) : Text :=
  ((t.dropWhile (isSpace ·.toNat)).reverse.dropWhile (isSpace ·.toNat)).reverse

/-- `text.partition(c)`, `none` where `c` does not occur. -/
def partition (c : CodePoint) (t : Text) : Option (Text × Text) :=
  if c ∈ t then some (t.takeWhile (· ≠ c), (t.dropWhile (· ≠ c)).tail) else none

/-- The text of code points that are all characters. -/
def string? (t : Text) : Option String := (t.mapM CodePoint.char?).map .ofList

theorem string?_eq_some {t : Text} {s : String} : string? t = some s ↔ t = ofString s := by
  unfold string? ofString
  rw [Option.map_eq_some_iff]
  constructor
  · rintro ⟨l, hl, rfl⟩
    rw [String.toList_ofList]
    exact mapM_char?_eq_some.1 hl
  · intro h
    exact ⟨s.toList, mapM_char?_eq_some.2 h, String.ofList_toList⟩

theorem encode_eq (t : Text) : encode t = (string? t).map String.toUTF8 := by
  rw [encode, string?, Option.map_map]
  rfl

theorem encode_ofString (s : String) : encode (ofString s) = some s.toUTF8 := by
  rw [encode_eq, string?_eq_some.2 rfl]
  rfl

end PyText

namespace CloudOpsAgent

open PyText

/-! ## The authorizer -/

/-- `hashlib.sha256(data).digest()`, left abstract. -/
class Sha256Bytes where
  digest : List UInt8 → Sha256Digest

/-- The 32 bytes of a digest. -/
def Sha256Digest.bytes (d : Sha256Digest) : List UInt8 :=
  (List.range 32).map fun i => UInt8.ofNat (d.bits.toNat / 256 ^ (31 - i))

def LOCAL_API_TOKEN_MIN_LENGTH : Nat := 32
def LOCAL_API_TOKEN_MAX_LENGTH : Nat := 256
def LOCAL_API_SESSION_COOKIE : String := "aioa_operator_session"
def cookieHeaderMaxLength : Nat := 4096

/-- `_SESSION_DOMAIN_SEPARATOR`. -/
def sessionDomainSeparator : List UInt8 := "aioa-local-browser-session-v1".toUTF8.toList ++ [0]

/-- Without surrounding whitespace, and of a length a token can have. -/
def TokenShape (t : Text) : Prop :=
  PyText.isStripped t ∧ LOCAL_API_TOKEN_MIN_LENGTH ≤ t.length ∧
    t.length ≤ LOCAL_API_TOKEN_MAX_LENGTH

instance (t : Text) : Decidable (TokenShape t) := by
  unfold TokenShape
  infer_instance

/-- Header texts under folded names. -/
abbrev HeaderTexts := List (Text × Text)

/-- The authorizer of a token.  The source keeps what `__init__` derives from it. -/
structure LocalApiTokenAuthorizer where
  token : String
  shape : TokenShape (ofString token)

namespace LocalApiTokenAuthorizer

/-! ## Candidates -/

/-- The candidate of `_authorize_bearer`, if its shape is a token's. -/
def bearerCandidate? (headers : HeaderTexts) : Option Text :=
  ((headers.lookup (ofString "authorization")).bind (afterPrefix (ofString "Bearer "))).filter
    (TokenShape ·)

theorem bearerCandidate?_eq_some {headers : HeaderTexts} {t : Text} :
    bearerCandidate? headers = some t ↔
      headers.lookup (ofString "authorization") = some (ofString "Bearer " ++ t) ∧ TokenShape t := by
  unfold bearerCandidate?
  rw [Option.filter_eq_some_iff, Option.bind_eq_some_iff, decide_eq_true_eq]
  refine and_congr_left fun _ => ?_
  constructor
  · rintro ⟨value, hvalue, hafter⟩
    rw [hvalue, afterPrefix_eq_some.1 hafter]
  · intro hvalue
    exact ⟨_, hvalue, afterPrefix_eq_some.2 rfl⟩

/-- The value of a session cookie in a segment of the header. -/
def sessionValue? (segment : Text) : Option Text :=
  match partition (.char '=') (stripSpaces segment) with
  | none => none
  | some (name, value) => if name = ofString LOCAL_API_SESSION_COOKIE then some value else none

/-- The loop of `_authorize_cookie`; `none` also where it returns `False`. -/
def scanCookie : List Text → Option Text → Option Text
  | [], candidate => candidate
  | segment :: segments, candidate =>
    match sessionValue? segment with
    | none => scanCookie segments candidate
    | some value =>
      if candidate.isSome ∨ value = [] ∨ !PyText.isStripped value then none
      else scanCookie segments (some value)

/-- `hmac.compare_digest` of two texts. -/
def compareDigest (t u : Text) : Except PyExc Bool :=
  if (t ++ u).all (·.toNat < 128) then .ok (t = u)
  else .error (.typeError "comparing strings with non-ASCII characters is not supported")

/-- The values of the session cookies in a cookie header. -/
def sessionCookies (raw : Text) : List Text := (raw.splitOn (.char ';')).filterMap sessionValue?

/-- Once there is a candidate, another session cookie is one too many. -/
theorem scanCookie_some {segments : List Text} {c v : Text} :
    scanCookie segments (some c) = some v ↔ c = v ∧ segments.filterMap sessionValue? = [] := by
  induction segments with
  | nil => simp [scanCookie]
  | cons segment segments ih =>
    rw [scanCookie]
    rcases hv : sessionValue? segment with _ | value
    · rw [List.filterMap_cons_none hv]
      exact ih
    · rw [List.filterMap_cons_some hv]
      simp

/-- The scan finds the value of the only session cookie. -/
theorem scanCookie_none {segments : List Text} {v : Text} :
    scanCookie segments none = some v ↔
      segments.filterMap sessionValue? = [v] ∧ v ≠ [] ∧ PyText.isStripped v := by
  induction segments with
  | nil => simp [scanCookie]
  | cons segment segments ih =>
    rw [scanCookie]
    rcases hv : sessionValue? segment with _ | value
    · rw [List.filterMap_cons_none hv]
      exact ih
    · rw [List.filterMap_cons_some hv]
      dsimp only
      split
      · next hbad =>
        constructor
        · intro h
          cases h
        · rintro ⟨hone, hne, hstripped⟩
          obtain ⟨rfl, -⟩ := List.cons.inj hone
          rcases hbad with h | h | h
          · cases h
          · exact absurd h hne
          · rw [hstripped] at h
            cases h
      · next hgood =>
        obtain ⟨-, hne, hstripped⟩ : ¬(none : Option Text).isSome = true ∧ value ≠ [] ∧
            PyText.isStripped value = true := by
          simpa [not_or] using hgood
        rw [scanCookie_some]
        constructor
        · rintro ⟨rfl, hnone⟩
          exact ⟨by rw [hnone], hne, hstripped⟩
        · rintro ⟨hone, -, -⟩
          exact List.cons.inj hone

/-! ## The authorizer -/

/-- `__init__`, `none` for its `ValueError`: also encoding a text with a surrogate raises one. -/
def ofToken? (token : Text) : Option LocalApiTokenAuthorizer :=
  (string? token).bind fun s => if h : TokenShape (ofString s) then some ⟨s, h⟩ else none

variable [Sha256Bytes] (a : LocalApiTokenAuthorizer)

/-- `_token_digest`. -/
def tokenDigest : Sha256Digest := Sha256Bytes.digest a.token.toUTF8.toList

/-- `_browser_session`. -/
def browserSession : String :=
  (Sha256Bytes.digest (sessionDomainSeparator ++ a.tokenDigest.bytes)).hex

/-- `_principal`. -/
def principal : LocalOperatorPrincipal :=
  ⟨"local-api:" ++ String.ofList (a.tokenDigest.hex.toList.take 32)⟩

/-- `_authorize_bearer`. -/
def authorizeBearer (headers : HeaderTexts) : Except PyExc Bool :=
  match bearerCandidate? headers with
  | none => .ok false
  | some candidate =>
    match encode candidate with
    | none => .error (.valueError "surrogates not allowed")
    | some bytes => .ok (Sha256Bytes.digest bytes.toList = a.tokenDigest)

/-- `issue_browser_session`. -/
def issueBrowserSession (headers : HeaderTexts) : Except PyExc (Option String) := do
  let accepted ← a.authorizeBearer headers
  return if accepted then some a.browserSession else none

/-- `_authorize_cookie`. -/
def authorizeCookie (headers : HeaderTexts) : Except PyExc Bool :=
  match headers.lookup (ofString "cookie") with
  | none => .ok false
  | some raw =>
    if raw = [] ∨ cookieHeaderMaxLength < raw.length then .ok false
    else
      match scanCookie (raw.splitOn (.char ';')) none with
      | none => .ok false
      | some candidate => compareDigest candidate (ofString a.browserSession)

/-- `authorize`. -/
def authorize (headers : HeaderTexts) : Except PyExc (Option LocalOperatorPrincipal) := do
  let accepted ←
    if (headers.lookup (ofString "authorization")).isSome then a.authorizeBearer headers
    else a.authorizeCookie headers
  return if accepted then some a.principal else none

/-! ## What is accepted -/

variable {a} in
/-- A candidate is accepted when it encodes to bytes with the token's digest. -/
theorem authorizeBearer_ok {headers : HeaderTexts} : a.authorizeBearer headers = .ok true ↔
    ∃ t bytes, bearerCandidate? headers = some t ∧ encode t = some bytes ∧
      Sha256Bytes.digest bytes.toList = a.tokenDigest := by
  unfold authorizeBearer
  rcases hc : bearerCandidate? headers with _ | t
  · simp
  · rcases he : encode t with _ | bytes <;> simp [he]

/-- The token is accepted. -/
theorem authorizeBearer_token {headers : HeaderTexts}
    (h : headers.lookup (ofString "authorization") = some (ofString "Bearer " ++ ofString a.token)) :
    a.authorizeBearer headers = .ok true :=
  authorizeBearer_ok.2 ⟨_, _, bearerCandidate?_eq_some.2 ⟨h, a.shape⟩, encode_ofString _, rfl⟩

omit [Sha256Bytes] in
/-- The characters of a digest's text. -/
theorem hex_all {p : CodePoint → Bool} (hp : ∀ d < 16, p (.char (Nat.digitChar d))) (d : Sha256Digest) :
    (ofString d.hex).all p := by
  have h := hexDigits_all (p := fun c => p (.char c)) hp d.bits.toNat 64
  rw [ofString, Sha256Digest.hex, String.toList_ofList, List.all_map]
  exact h

/-- An issued session has nothing around it and is plain ASCII. -/
theorem browserSession_shape : ofString a.browserSession ≠ [] ∧
    PyText.isStripped (ofString a.browserSession) ∧
    ∀ p ∈ ofString a.browserSession, p.toNat < 128 := by
  have hspace := hex_all (p := fun c => !PyText.isSpace c.toNat) (by decide)
    (Sha256Bytes.digest (sessionDomainSeparator ++ a.tokenDigest.bytes))
  have hascii := hex_all (p := fun c => decide (c.toNat < 128)) (by decide)
    (Sha256Bytes.digest (sessionDomainSeparator ++ a.tokenDigest.bytes))
  rw [← browserSession, List.all_eq_true] at hspace hascii
  have hlength : (ofString a.browserSession).length = 64 := by
    rw [ofString, browserSession, Sha256Digest.hex, String.toList_ofList, List.length_map,
      length_hexDigits]
  refine ⟨?_, ?_, fun p hp => of_decide_eq_true (hascii p hp)⟩
  · intro h
    rw [h] at hlength
    cases hlength
  · have hnone : ∀ x : Option CodePoint, (∀ p ∈ x, p ∈ ofString a.browserSession) →
        x.any (PyText.isSpace ·.toNat) = false := by
      intro x hx
      rcases x with _ | p
      · rfl
      · simpa using hspace p (hx p rfl)
    unfold PyText.isStripped
    rw [hnone _ fun p hp => List.mem_of_head? hp, hnone _ fun p hp => List.mem_of_getLast? hp]
    rfl

variable {a} in
/-- The one session cookie with the issued value is accepted, and nothing else. -/
theorem authorizeCookie_ok {headers : HeaderTexts} : a.authorizeCookie headers = .ok true ↔
    ∃ raw, headers.lookup (ofString "cookie") = some raw ∧ raw.length ≤ cookieHeaderMaxLength ∧
      sessionCookies raw = [ofString a.browserSession] := by
  obtain ⟨hne, hstripped, hascii⟩ := a.browserSession_shape
  have hempty : sessionCookies [] = [] := by decide
  unfold authorizeCookie
  rcases headers.lookup (ofString "cookie") with _ | raw
  · simp
  · simp only [Option.some.injEq, exists_eq_left']
    split
    · next hbad =>
      refine iff_of_false (fun h => by simp at h) ?_
      rintro ⟨hlength, hone⟩
      rcases hbad with rfl | hlong
      · rw [hempty] at hone
        cases hone
      · omega
    · next hgood =>
      have hlength : raw.length ≤ cookieHeaderMaxLength := by
        have := not_or.mp hgood
        omega
      rcases hscan : scanCookie (raw.splitOn (.char ';')) none with _ | candidate
      · refine iff_of_false (fun h => by simp at h) ?_
        rintro ⟨-, hone⟩
        rw [scanCookie_none.2 ⟨hone, hne, hstripped⟩] at hscan
        cases hscan
      · have hcandidate : sessionCookies raw = [candidate] := (scanCookie_none.1 hscan).1
        rw [hcandidate]
        dsimp only
        unfold compareDigest
        constructor
        · intro h
          split at h
          · have heq : decide (candidate = ofString a.browserSession) = true := Except.ok.inj h
            rw [of_decide_eq_true heq]
            exact ⟨hlength, rfl⟩
          · cases h
        · rintro ⟨-, hone⟩
          obtain rfl : candidate = ofString a.browserSession := (List.cons.inj hone).1
          rw [if_pos]
          · simp
          · rw [List.all_eq_true]
            intro p hp
            exact decide_eq_true (hascii p ((List.mem_append.1 hp).elim id id))

variable {a} in
/-- With an authorization header the cookie counts for nothing. -/
theorem authorize_ok {headers : HeaderTexts} {p : LocalOperatorPrincipal} :
    a.authorize headers = .ok (some p) ↔ p = a.principal ∧
      if (headers.lookup (ofString "authorization")).isSome then
        a.authorizeBearer headers = .ok true
      else a.authorizeCookie headers = .ok true := by
  have hlast : ∀ accepted : Except PyExc Bool,
      (do let accepted ← accepted; return if accepted then some a.principal else none :
        Except PyExc (Option LocalOperatorPrincipal)) = .ok (some p) ↔
        p = a.principal ∧ accepted = .ok true := by
    intro accepted
    rcases accepted with x | accepted
    · refine iff_of_false ?_ ?_
      · intro h
        cases h
      · rintro ⟨-, h⟩
        cases h
    · cases accepted
      · refine iff_of_false ?_ ?_
        · intro h
          cases h
        · rintro ⟨-, h⟩
          cases h
      · constructor
        · intro h
          cases h
          exact ⟨rfl, rfl⟩
        · rintro ⟨rfl, -⟩
          rfl
  unfold authorize
  dsimp only
  by_cases h : (headers.lookup (ofString "authorization")).isSome = true
  · rw [if_pos h, if_pos h]
    exact hlast _
  · rw [if_neg h, if_neg h]
    exact hlast _

end LocalApiTokenAuthorizer

end CloudOpsAgent
