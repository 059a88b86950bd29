/-
  What the loopback API lets through, and what it lets out.

  1. **Specification** — `Opens`: the events that entitle to a flow call, in terms of the event alone.
     `Sound`: `handle` answers, makes at most one flow call, and only for an event that opens it.

  2. **Requests** — a request says what its event says (`Parsed`), so a call that a route asks for
     (`Asks`) is opened by the event, up to what a digest cannot tell apart (`opens_iff`).

  3. **Runs** — a handler makes the calls its route asks for and no other flow call; what escapes it
     is what its `try` blocks leave uncovered (`Contained`).

  4. **The gate** — sound exactly when contained (`gate_sound_iff`).
-/
import CloudOpsAgent.LocalApi.Application
import CloudOpsAgent.Persistence.StrictJson

namespace CloudOpsAgent

namespace LocalApi

open PyText ClientProg ClientProg.Prog LocalApiTokenAuthorizer

section Gate

variable [Sha256Bytes] [FloatRepr] [Lax] [JudgeUi]

/-! ## Specification -/

def EventHeaders.items : EventHeaders → Headers
  | .mapping items => items
  | _ => []

/-- The header names of the event that are texts, folded. -/
def EventFields.names (casefold : Text → Text) (fields : EventFields) : List Text :=
  (fields.headers.items.filterMap (·.1)).map casefold

/-- The event has a header with this name, ignoring case, and this value. -/
def EventFields.Has (casefold : Text → Text) (fields : EventFields) (name : String) (value : Text) :
    Prop :=
  ∃ raw, (some raw, HeaderValue.text value) ∈ fields.headers.items ∧ casefold raw = ofString name

/-- The body is one that the model of the call's route accepts. -/
def Accepted (a : LocalApiTokenAuthorizer) (path : Text) (j : Json) : FlowCall → Prop
  | .execute _ query => path = ofString "/api/runs" ∧
      ∃ start, LocalStartRunRequest.read j = some start ∧ query = start.toQuery
  | .requestApproval runId p => p = a.principal ∧ ∃ raw, runId? raw = some runId ∧
      path = ofString "/api/runs/" ++ (raw ++ ofString "/approval-request") ∧
      EmptyRequest.read j = some ()
  | .decide decision p => p = a.principal ∧ ∃ raw, runId? raw = some decision.runId ∧
      path = ofString "/api/runs/" ++ (raw ++ ofString "/decision") ∧
      LocalDecisionRequest.read j = some decision
  | .resume runId p => p = a.principal ∧ ∃ raw, runId? raw = some runId ∧
      path = ofString "/api/runs/" ++ (raw ++ ofString "/resume") ∧
      LocalResumeRequest.read j = some ()

/-- The operator's token, or the session that was issued for it and the console's intent. -/
def Credential (a : LocalApiTokenAuthorizer) (casefold : Text → Text) (fields : EventFields) : Prop :=
  fields.Has casefold "authorization" (ofString "Bearer " ++ ofString a.token) ∨
    ofString "authorization" ∉ fields.names casefold ∧
    (∃ raw, fields.Has casefold "cookie" raw ∧ sessionCookies raw = [ofString a.browserSession]) ∧
    fields.Has casefold "x-aioa-intent" (ofString "judge-console-v1")

/-- The event entitles to the call. -/
structure Opens (a : LocalApiTokenAuthorizer) (casefold : Text → Text) (fields : EventFields)
    (call : FlowCall) : Prop where
  method : fields.method = .text (ofString "POST")
  query : fields.query.getD (.text []) = .text []
  unique : (fields.names casefold).Nodup
  contentType : fields.Has casefold "content-type" (ofString "application/json")
  body : ∃ path body j, fields.path = .text path ∧ fields.body = .text (ofString body) ∧
    StrictJson.load StrictJson.plain body.toList = .ok j ∧ StrictJson.uniqueKeys j ∧
    Accepted a path j call
  credential : Credential a casefold fields

/-- A handler's calls are recorded. -/
def answer (runtime : Runtime) (calls : List ApiCall) (c : ApiCall) :
    Except PyExc c.Result × List ApiCall := (runtime c, calls ++ [c])

def ApiCall.flow? : ApiCall → Option FlowCall
  | .flow f => some f
  | _ => none

/-- The flow calls of a run. -/
def flows (calls : List ApiCall) : List FlowCall := calls.filterMap ApiCall.flow?

/-- What `handle` returns or raises, and the calls it makes. -/
def outcome (a : LocalApiTokenAuthorizer) (casefold : Text → Text) (runtime : Runtime)
    (event : ApiEvent) : Except ApiExc Response × List ApiCall :=
  (handle a casefold event).run (answer runtime) []

/-- The gate on one event, in front of one runtime. -/
structure Sound (a : LocalApiTokenAuthorizer) (casefold : Text → Text) (runtime : Runtime)
    (event : ApiEvent) : Prop where
  total : ∃ response, (outcome a casefold runtime event).1 = .ok response
  once : (flows (outcome a casefold runtime event).2).length ≤ 1
  opened : ∀ call ∈ flows (outcome a casefold runtime event).2,
    ∃ fields, event = .mapping fields ∧ Opens a casefold fields call

/-! ## Requests -/

section Requests

omit [Sha256Bytes] [FloatRepr] [Lax] [JudgeUi]

variable {casefold : Text → Text} {fields : EventFields} {r : Request}

/-- What a request keeps of its event. -/
structure Parsed (casefold : Text → Text) (fields : EventFields) (r : Request) : Prop where
  method : fields.method = .text r.method
  path : fields.path = .text r.path
  query : fields.query.getD (.text []) = .text r.query
  body : ∀ body, r.body = some body → fields.body = .text (ofString body)
  names : fields.names casefold = r.headers.map Prod.fst
  unique : (r.headers.map Prod.fst).Nodup
  header : ∀ name value, fields.Has casefold name value ↔ (ofString name, value) ∈ r.headers

theorem headerTexts?_eq {items : Headers} {texts : HeaderTexts}
    (h : headerTexts? items = some texts) :
    items = texts.map fun t => (some t.1, .text t.2) := by
  unfold headerTexts? at h
  induction items generalizing texts with
  | nil =>
    cases h
    rfl
  | cons item items ih =>
    rw [List.mapM_cons] at h
    obtain ⟨t, ht, h⟩ := Option.bind_eq_some_iff.1 h
    obtain ⟨ts, hts, h⟩ := Option.bind_eq_some_iff.1 h
    cases h
    rw [List.map_cons, ← ih hts]
    congr 1
    split at ht
    · split at ht
      · cases ht
        rfl
      · cases ht
    · cases ht

theorem parsedBody_ok {v : EventValue} {body : Option String} (h : parsedBody v = .ok body) :
    ∀ s, body = some s → v = .text (ofString s) := by
  rintro s rfl
  unfold parsedBody at h
  split at h
  · cases h
  · cases h
  · split at h
    · cases h
    · next t s' hs =>
      split at h
      · cases h
      · cases h
        rw [string?_eq_some.1 hs]

theorem normalizedHeaders_ok {headers : EventHeaders} {texts : HeaderTexts}
    (h : normalizedHeaders casefold headers = .ok texts) :
    (texts.map Prod.fst).Nodup ∧ ∃ raw : HeaderTexts,
      headers.items = raw.map (fun t => (some t.1, .text t.2)) ∧
      texts = raw.map fun t => (casefold t.1, t.2) := by
  unfold normalizedHeaders at h
  split at h
  · cases h
    exact ⟨List.nodup_nil, [], rfl, rfl⟩
  · cases h
  · split at h
    · cases h
    split at h
    · cases h
    · next raw hraw =>
      dsimp only at h
      split at h
      · next hnodup =>
        cases h
        exact ⟨hnodup, raw, headerTexts?_eq hraw, rfl⟩
      · cases h

/-- **A request says what its event says.** -/
theorem parseRequest_ok {event : ApiEvent} (h : parseRequest casefold event = .ok r) :
    ∃ fields, event = .mapping fields ∧ Parsed casefold fields r := by
  unfold parseRequest at h
  split at h
  · next method path query body headers =>
    split at h
    · next q hq =>
      split at h
      · cases h
      rcases hbody : parsedBody body with x | body'
      · rw [hbody] at h
        cases h
      rcases hheaders : normalizedHeaders casefold headers with x | texts
      · rw [hbody, hheaders] at h
        cases h
      rw [hbody, hheaders] at h
      cases h
      obtain ⟨hnodup, raw, hitems, rfl⟩ := normalizedHeaders_ok hheaders
      refine ⟨_, rfl, {
        method := rfl
        path := rfl
        query := hq
        body := parsedBody_ok hbody
        names := ?_
        unique := hnodup
        header := fun name value => ?_ }⟩
      · rw [EventFields.names, hitems, List.filterMap_map]
        simp [Function.comp_def]
      · rw [EventFields.Has, hitems]
        simp only [List.mem_map, Prod.mk.injEq, Option.some.injEq, HeaderValue.text.injEq]
        constructor
        · rintro ⟨name', ⟨t, ht, rfl, rfl⟩, hname⟩
          exact ⟨t, ht, hname, rfl⟩
        · rintro ⟨t, ht, hname, rfl⟩
          exact ⟨t.1, ⟨t, ht, rfl, rfl⟩, hname⟩
    · cases h
  · cases h

theorem Parsed.lookup (h : Parsed casefold fields r) {name : String} {value : Text} :
    r.header name = some value ↔ fields.Has casefold name value := by
  rw [h.header, Request.header, Assoc.lookup_iff_mem h.unique]

theorem Parsed.lookup_none (h : Parsed casefold fields r) {name : String} :
    r.header name = none ↔ ofString name ∉ fields.names casefold := by
  rw [h.names, Request.header, Assoc.lookup_eq_none_iff]

/-! ### Routes -/

theorem runName?_eq {suffix path name : Text} (h : runName? suffix path = some name) :
    path = ofString "/api/runs/" ++ (name ++ suffix) := by
  unfold runName? at h
  obtain ⟨rest, hrest, h⟩ := Option.bind_eq_some_iff.1 h
  split at h
  · next hsuffix =>
    obtain ⟨name', rfl⟩ := hsuffix
    dsimp only at h
    split at h
    · have htake : (name' ++ suffix).take ((name' ++ suffix).length - suffix.length) = name' := by
        rw [List.length_append, Nat.add_sub_cancel, List.take_left]
      rw [htake] at h
      cases h
      exact afterPrefix_eq_some.1 hrest
    · cases h
  · cases h

/-- What a route with a flow call says about the path. -/
theorem route_eq (path : Text) : match route path with
    | .start => path = ofString "/api/runs"
    | .approvalRequest raw => path = ofString "/api/runs/" ++ (raw ++ ofString "/approval-request")
    | .decision raw => path = ofString "/api/runs/" ++ (raw ++ ofString "/decision")
    | .resume raw => path = ofString "/api/runs/" ++ (raw ++ ofString "/resume")
    | _ => True := by
  unfold route
  split_ifs with hhealth hready hpage hsession hstart
  · trivial
  · trivial
  · trivial
  · trivial
  · exact hstart
  rcases happroval : runName? (ofString "/approval-request") path with _ | raw
  · rcases hdecision : runName? (ofString "/decision") path with _ | raw
    · rcases hresume : runName? (ofString "/resume") path with _ | raw
      · rcases runName? [] path with _ | raw <;> trivial
      · exact runName?_eq hresume
    · exact runName?_eq hdecision
  · exact runName?_eq happroval

end Requests

/-! ### Checks -/

section Checks

variable {a : LocalApiTokenAuthorizer} {casefold : Text → Text} {fields : EventFields} {r : Request}
  {f : FlowCall} {p : LocalOperatorPrincipal}

omit [FloatRepr] [Lax] [JudgeUi] in
theorem protectedPrincipal_ok {method : String} (h : protectedPrincipal a r method = .ok p) :
    r.method = ofString method ∧ a.authorize r.headers = .ok (some p) ∧
      (method ≠ "GET" → (r.header "authorization").isSome ∨
        r.header "x-aioa-intent" = some (ofString "judge-console-v1")) := by
  unfold protectedPrincipal at h
  split at h
  · cases h
  · next hmethod =>
    split at h
    · cases h
    · next p' hp =>
      split at h
      · cases h
      · next hintent =>
        cases h
        refine ⟨not_not.1 hmethod, ?_, fun hget => ?_⟩
        · unfold principal at hp
          split at hp
          · next p'' hauth =>
            rw [hauth, hp]
          · cases hp
        · by_contra hneither
          obtain ⟨hnone, hother⟩ := not_or.1 hneither
          exact hintent ⟨hget, by simpa using hnone, hother⟩

omit [Sha256Bytes] [Lax] [JudgeUi] in
theorem jsonModel_ok {α : Type} {read : Json → Option α} {value : α}
    (h : jsonModel r read = .ok value) :
    r.query = [] ∧ r.header "content-type" = some (ofString "application/json") ∧
      ∃ body j, r.body = some body ∧ StrictJson.strictJson body = .ok j ∧ read j = some value := by
  unfold jsonModel at h
  split at h
  · cases h
  · next hquery =>
    split at h
    · cases h
    · next htype =>
      split at h
      · cases h
      · next body hbody =>
        split at h
        · cases h
        · next j hj =>
          split at h
          · cases h
          · next value' hread =>
            cases h
            exact ⟨not_not.1 hquery, not_not.1 htype, body, j, hbody, hj, hread⟩

omit [FloatRepr] [Lax] [JudgeUi] in
/-- A request that passed `_protected` has a credential, unless its token is another text with the
    same digest. -/
theorem credential_iff (hparsed : Parsed casefold fields r)
    (hprotected : protectedPrincipal a r "POST" = .ok p) :
    Credential a casefold fields ↔
      ∀ t, bearerCandidate? r.headers = some t → t = ofString a.token := by
  obtain ⟨-, hauthorize, hintent⟩ := protectedPrincipal_ok hprotected
  obtain ⟨-, haccepted⟩ := authorize_ok.1 hauthorize
  rcases hheader : r.header "authorization" with _ | value
  · -- by the cookie
    have hnone : r.headers.lookup (ofString "authorization") = none := hheader
    rw [hnone, if_neg (by simp)] at haccepted
    obtain ⟨raw, hraw, -, hone⟩ := authorizeCookie_ok.1 haccepted
    refine iff_of_true (.inr ⟨hparsed.lookup_none.1 hheader, ⟨raw, ?_, hone⟩, ?_⟩) fun t ht => ?_
    · exact hparsed.lookup.1 hraw
    · rcases hintent (by decide) with h | h
      · rw [hheader] at h
        cases h
      · exact hparsed.lookup.1 h
    · obtain ⟨h, -⟩ := bearerCandidate?_eq_some.1 ht
      rw [hnone] at h
      cases h
  · -- by the token
    have hsome : r.headers.lookup (ofString "authorization") = some value := hheader
    rw [hsome, if_pos (by simp)] at haccepted
    obtain ⟨t, bytes, ht, -, -⟩ := authorizeBearer_ok.1 haccepted
    obtain ⟨hvalue, -⟩ := bearerCandidate?_eq_some.1 ht
    constructor
    · rintro (hbearer | ⟨habsent, -⟩) t' ht'
      · obtain ⟨hvalue', -⟩ := bearerCandidate?_eq_some.1 ht'
        have htoken := hparsed.lookup.2 hbearer
        rw [Request.header, hvalue'] at htoken
        exact List.append_cancel_left (Option.some.inj htoken)
      · rw [hparsed.lookup_none.2 habsent] at hheader
        cases hheader
    · intro hexact
      refine .inl (hparsed.lookup.1 ?_)
      rw [Request.header, hvalue, hexact t ht]

/-- The call that a phase-two route prepares. -/
def Prepares (a : LocalApiTokenAuthorizer) (r : Request) (raw : Text)
    (prepare : UUID → LocalOperatorPrincipal → Except Rejected FlowCall) (f : FlowCall) : Prop :=
  ∃ p runId, protectedPrincipal a r "POST" = .ok p ∧ runId? raw = some runId ∧
    prepare runId p = .ok f

/-- The run that the clock and the factories give. -/
def created (runtime : Runtime) : Except PyExc Run := do
  let now ← runtime .clock
  let runId ← runtime .runId
  let traceId ← runtime (.traceId 0)
  let correlationId ← runtime (.traceId 1)
  newRun runId traceId correlationId now

/-- The flow call that a request asks for. -/
def Asks (a : LocalApiTokenAuthorizer) (runtime : Runtime) (r : Request) (f : FlowCall) : Prop :=
  match route r.path with
  | .start => ∃ p start run, protectedPrincipal a r "POST" = .ok p ∧
      jsonModel r LocalStartRunRequest.read = .ok start ∧ created runtime = .ok run ∧
      f = .execute run start.toQuery
  | .approvalRequest raw => Prepares a r raw (approvalRequestCall r) f
  | .decision raw => Prepares a r raw (decisionCall r) f
  | .resume raw => Prepares a r raw (resumeCall r) f
  | _ => False

omit [JudgeUi]

omit [FloatRepr] [Lax] in
theorem protectedPrincipal_eq {method : String} (h : protectedPrincipal a r method = .ok p) :
    p = a.principal := (authorize_ok.1 (protectedPrincipal_ok h).2.1).1

/-- A call that is asked for is one that the body allows. -/
theorem Asks.accepted {runtime : Runtime} (h : Asks a runtime r f) :
    (∃ p, protectedPrincipal a r "POST" = .ok p) ∧ r.query = [] ∧
      r.header "content-type" = some (ofString "application/json") ∧
      ∃ body j, r.body = some body ∧ StrictJson.strictJson body = .ok j ∧ Accepted a r.path j f := by
  have hpath := route_eq r.path
  unfold Asks at h
  split at h
  · next hroute =>
    rw [hroute] at hpath
    obtain ⟨p, start, run, hp, hstart, -, rfl⟩ := h
    obtain ⟨hquery, htype, body, j, hbody, hj, hread⟩ := jsonModel_ok hstart
    exact ⟨⟨p, hp⟩, hquery, htype, body, j, hbody, hj, hpath, start, hread, rfl⟩
  · next raw hroute =>
    rw [hroute] at hpath
    obtain ⟨p, runId, hp, hrun, hf⟩ := h
    unfold approvalRequestCall at hf
    rcases hmodel : jsonModel r EmptyRequest.read with x | value
    · rw [hmodel] at hf
      cases hf
    · rw [hmodel] at hf
      cases hf
      obtain ⟨hquery, htype, body, j, hbody, hj, hread⟩ := jsonModel_ok hmodel
      exact ⟨⟨p, hp⟩, hquery, htype, body, j, hbody, hj, protectedPrincipal_eq hp, raw, hrun, hpath,
        hread⟩
  · next raw hroute =>
    rw [hroute] at hpath
    obtain ⟨p, runId, hp, hrun, hf⟩ := h
    unfold decisionCall at hf
    rcases hmodel : jsonModel r LocalDecisionRequest.read with x | decision
    · rw [hmodel] at hf
      cases hf
    · rw [hmodel] at hf
      obtain ⟨hquery, htype, body, j, hbody, hj, hread⟩ := jsonModel_ok hmodel
      by_cases hsame : decision.runId = runId
      · have hcall : FlowCall.decide decision p = f := by
          change (if decision.runId ≠ runId then _ else _) = _ at hf
          rw [if_neg (not_not.2 hsame)] at hf
          exact Except.ok.inj hf
        subst hcall
        refine ⟨⟨p, hp⟩, hquery, htype, body, j, hbody, hj, protectedPrincipal_eq hp, raw, ?_, hpath,
          hread⟩
        rw [hsame]
        exact hrun
      · change (if decision.runId ≠ runId then _ else _) = _ at hf
        rw [if_pos hsame] at hf
        cases hf
  · next raw hroute =>
    rw [hroute] at hpath
    obtain ⟨p, runId, hp, hrun, hf⟩ := h
    unfold resumeCall at hf
    rcases hmodel : jsonModel r LocalResumeRequest.read with x | value
    · rw [hmodel] at hf
      cases hf
    · rw [hmodel] at hf
      cases hf
      obtain ⟨hquery, htype, body, j, hbody, hj, hread⟩ := jsonModel_ok hmodel
      exact ⟨⟨p, hp⟩, hquery, htype, body, j, hbody, hj, protectedPrincipal_eq hp, raw, hrun, hpath,
        hread⟩
  · exact h.elim

/-- **The event opens a call that its request asks for**, unless the token is another text with the
    same digest. -/
theorem opens_iff {runtime : Runtime} (hparsed : Parsed casefold fields r)
    (hasks : Asks a runtime r f) : Opens a casefold fields f ↔
      ∀ t, bearerCandidate? r.headers = some t → t = ofString a.token := by
  obtain ⟨⟨p, hprotected⟩, hquery, htype, body, j, hbody, hj, haccepted⟩ := hasks.accepted
  obtain ⟨hmethod, -, -⟩ := protectedPrincipal_ok hprotected
  rw [← credential_iff hparsed hprotected]
  refine ⟨Opens.credential, fun hcredential => {
    method := ?_
    query := ?_
    unique := ?_
    contentType := hparsed.lookup.1 htype
    body := ?_
    credential := hcredential }⟩
  · rw [hparsed.method, hmethod]
  · rw [hparsed.query, hquery]
  · rw [hparsed.names]
    exact hparsed.unique
  · obtain ⟨hload, hkeys⟩ := StrictJson.strict_iff.1 hj
    exact ⟨r.path, body, j, hparsed.path, hparsed.body body hbody, hload, hkeys, haccepted⟩

end Checks

/-! ## Runs -/

section Runs

variable {α : Type} {a : LocalApiTokenAuthorizer} {casefold : Text → Text} {runtime : Runtime}
  {r : Request} {f : FlowCall} {l l' : List ApiCall}

omit [Sha256Bytes] [FloatRepr] [Lax] [JudgeUi]

/-- Not a flow call. -/
def ApiCall.Quiet (c : ApiCall) : Prop := c.flow? = none

theorem flows_append_flow (l : List ApiCall) (f : FlowCall) : flows (l ++ [.flow f]) = flows l ++ [f] := by
  unfold flows
  rw [List.filterMap_append]
  rfl

/-- A program without flow calls records none. -/
theorem flows_run {p : Api α} (hp : p.Issues ApiCall.Quiet) (l : List ApiCall) :
    flows (p.run (answer runtime) l).2 = flows l := by
  induction p generalizing l with
  | ret b => rfl
  | raise x => rfl
  | call c k ih =>
    rw [run_call]
    refine (ih _ (hp.2 _) _).trans ?_
    have hquiet : c.flow? = none := hp.1
    change flows (l ++ [c]) = flows l
    unfold flows
    rw [List.filterMap_append, List.filterMap_cons_none hquiet]
    exact List.append_nil _

theorem Api.issues_call {c : ApiCall} (hc : c.Quiet) : (Api.call c).Issues ApiCall.Quiet := by
  refine ⟨hc, fun x => ?_⟩
  cases x <;> trivial

theorem Api.run_call (c : ApiCall) (l : List ApiCall) :
    (Api.call c).run (answer runtime) l = ((runtime c).mapError .raised, l ++ [c]) := by
  rcases h : runtime c with x | value
  · simp only [Api.call, Prog.run_call, answer, h]
    rfl
  · simp only [Api.call, Prog.run_call, answer, h]
    rfl

theorem Api.run_ofRaised (x : Except PyExc α) (l : List ApiCall) :
    (Api.ofRaised x).run (answer runtime) l = (x.mapError .raised, l) := by
  cases x <;> rfl

theorem Api.run_ofRejected (x : Except Rejected α) (l : List ApiCall) :
    (Api.ofRejected x).run (answer runtime) l = (x.mapError .rejected, l) := by
  cases x <;> rfl

section TryExcept

variable {body : Api α} {handler : ApiExc → Option Response} {rest : α → Api Response}

theorem run_tryExcept_ok {b : α} (h : body.run (answer runtime) l = (.ok b, l')) :
    (Api.tryExcept body handler rest).run (answer runtime) l = (rest b).run (answer runtime) l' := by
  have hattempt : body.attempt.run (answer runtime) l = (.ok (.ok b), l') := by
    rw [run_attempt, h]
  unfold Api.tryExcept
  rw [run_bind_ok _ hattempt]

theorem run_tryExcept_error {x : ApiExc} (h : body.run (answer runtime) l = (.error x, l')) :
    (Api.tryExcept body handler rest).run (answer runtime) l =
      (match handler x with | some response => .ok response | none => .error x, l') := by
  have hattempt : body.attempt.run (answer runtime) l = (.ok (.error x), l') := by
    rw [run_attempt, h]
  unfold Api.tryExcept
  rw [run_bind_ok _ hattempt]
  dsimp only
  cases handler x <;> rfl

end TryExcept

/-! ### Flow routes -/

/-- The answer to what a flow call returned or raised. -/
def flowOutcome (status : Nat) : Except PyExc (ControlResult Json) → Except ApiExc Response
  | .error _ => .ok (errorResponse .internalError 500)
  | .ok (.failed failure) => (flowFailure failure).mapError .raised
  | .ok (.succeeded value) => .ok (okResponse status value)

/-- The answer is one, unless a failure has a code that the public error does not take. -/
theorem flowOutcome_ok {status : Nat} {x : Except PyExc (ControlResult Json)} :
    (∃ response, flowOutcome status x = .ok response) ↔
      ∀ failure, x = .ok (.failed failure) → PublicFailureCode failure.code := by
  rcases x with x | value | failure
  · exact iff_of_true ⟨_, rfl⟩ fun failure h => by cases h
  · exact iff_of_true ⟨_, rfl⟩ fun failure h => by cases h
  · unfold flowOutcome flowFailure
    dsimp only
    constructor
    · rintro ⟨response, h⟩ failure' hfailure
      cases hfailure
      by_contra hcode
      rw [dif_neg hcode] at h
      cases h
    · intro h
      rw [dif_pos (h failure rfl)]
      exact ⟨_, rfl⟩

theorem run_flowResponse {status : Nat} {prepare : Api FlowCall}
    (h : prepare.run (answer runtime) [] = (.ok f, l)) :
    (flowResponse status prepare).run (answer runtime) [] =
      (flowOutcome status (runtime (.flow f)), l ++ [.flow f]) := by
  have hbody : (do let f ← prepare; Api.flow f : Api (ControlResult Json)).run
      (answer runtime) [] = ((runtime (.flow f)).mapError .raised, l ++ [.flow f]) := by
    rw [run_bind_ok _ h]
    exact Api.run_call (.flow f) l
  unfold flowResponse
  rcases hx : runtime (.flow f) with x | value | failure
  · rw [hx] at hbody
    rw [run_tryExcept_error hbody]
    rfl
  · rw [hx] at hbody
    rw [run_tryExcept_ok hbody]
    rfl
  · rw [hx] at hbody
    rw [run_tryExcept_ok hbody]
    exact Api.run_ofRaised _ _

/-- A call that cannot be prepared is answered and not made. -/
theorem run_flowResponse_refused (status : Nat) {prepare : Api FlowCall} {x : ApiExc}
    (h : prepare.run (answer runtime) [] = (.error x, l)) :
    ∃ response, (flowResponse status prepare).run (answer runtime) [] = (.ok response, l) := by
  have hbody : (do let f ← prepare; Api.flow f : Api (ControlResult Json)).run
      (answer runtime) [] = (.error x, l) := run_bind_error _ h
  unfold flowResponse
  rw [run_tryExcept_error hbody]
  cases x <;> exact ⟨_, rfl⟩

theorem run_call_bind (c : ApiCall) (k : c.Result → Api α) (l : List ApiCall) :
    (Api.call c >>= k).run (answer runtime) l = match runtime c with
      | .ok v => (k v).run (answer runtime) (l ++ [c])
      | .error x => (.error (.raised x), l ++ [c]) := by
  have hcall : (Api.call c).run (answer runtime) l = _ := Api.run_call c l
  rcases hc : runtime c with x | v
  · rw [hc] at hcall
    exact run_bind_error _ hcall
  · rw [hc] at hcall
    exact run_bind_ok _ hcall

/-- What `createRun` gives, and that it makes no flow call. -/
theorem run_createRun (runtime : Runtime) (l : List ApiCall) : ∃ l', flows l' = flows l ∧
    createRun.run (answer runtime) l = ((created runtime).mapError .raised, l') := by
  have hquiet : createRun.Issues ApiCall.Quiet := by
    refine (Api.issues_call (c := .clock) rfl).bind fun now => ?_
    refine (Api.issues_call (c := .runId) rfl).bind fun runId => ?_
    refine (Api.issues_call (c := .traceId 0) rfl).bind fun traceId => ?_
    refine (Api.issues_call (c := .traceId 1) rfl).bind fun correlationId => ?_
    cases newRun runId traceId correlationId now <;> trivial
  refine ⟨_, flows_run hquiet l, Prod.ext ?_ rfl⟩
  unfold created
  -- one call after the other, each of which may raise
  refine (congrArg Prod.fst (run_call_bind .clock _ l)).trans ?_
  rcases runtime .clock with x | now
  · rfl
  refine (congrArg Prod.fst (run_call_bind .runId _ _)).trans ?_
  rcases runtime .runId with x | runId
  · rfl
  refine (congrArg Prod.fst (run_call_bind (.traceId 0) _ _)).trans ?_
  rcases runtime (.traceId 0) with x | traceId
  · rfl
  refine (congrArg Prod.fst (run_call_bind (.traceId 1) _ _)).trans ?_
  rcases runtime (.traceId 1) with x | correlationId
  · rfl
  change ((Api.ofRaised (newRun runId traceId correlationId now)).run (answer runtime) _).1 = _
  rw [Api.run_ofRaised]
  rfl

/-! ### Quiet routes -/

/-- What the readiness checks of the runtime come to. -/
def readiness (runtime : Runtime) : Except PyExc Json := do
  let view ← runtime .runtimeView
  runtime .repositoryReady
  runtime .cloudReady
  return view

/-- What the runtime shows of a run, if it has it. -/
def shown (runtime : Runtime) (runId : UUID) : Except PyExc (Option Json) := do
  match ← runtime (.readRunSnapshot runId) with
  | none => return none
  | some _ => some <$> runtime (.runView runId)

/-- The run ends in a response. -/
def Answers (runtime : Runtime) (p : Api Response) (l : List ApiCall) : Prop :=
  ∃ response, (p.run (answer runtime) l).1 = .ok response

theorem answers_return (response : Response) (l : List ApiCall) :
    Answers runtime (return response) l := ⟨response, rfl⟩

section Block

variable {body : Api α} {rest : α → Api Response} {caught : PyExc → Bool} {response : Response}
  {x : Except PyExc α}

/-- What a `try` block comes to after its body. -/
def Settled (runtime : Runtime) (rest : α → Api Response) (caught : PyExc → Bool)
    (l : List ApiCall) : Except PyExc α → Prop
  | .ok b => Answers runtime (rest b) l
  | .error y => caught y = true

/-- A `try` block answers when what its body raises is caught, and what comes after answers. -/
theorem answers_tryExcept (h : body.run (answer runtime) l = (x.mapError .raised, l')) :
    Answers runtime (Api.tryExcept body (answering caught response) rest) l ↔
      Settled runtime rest caught l' x := by
  unfold Answers
  rcases x with y | b
  · rw [run_tryExcept_error h]
    dsimp only [answering]
    cases hy : caught y
    · refine iff_of_false ?_ ?_
      · rintro ⟨response', h'⟩
        cases h'
      · rw [Settled, hy]
        exact Bool.false_ne_true
    · exact iff_of_true ⟨response, rfl⟩ hy
  · rw [run_tryExcept_ok h]
    rfl

/-- Where what comes after always answers, only the exceptions count. -/
theorem settled_iff (hrest : ∀ b, Answers runtime (rest b) l) :
    Settled runtime rest caught l x ↔ ∀ y, x = .error y → caught y = true := by
  rcases x with y | b
  · constructor
    · rintro h y' hy'
      cases hy'
      exact h
    · exact fun h => h y rfl
  · exact iff_of_true (hrest b) fun y h => by cases h

end Block

theorem issues_tryExcept {body : Api α} {handler : ApiExc → Option Response}
    {rest : α → Api Response} (hbody : body.Issues ApiCall.Quiet)
    (hrest : ∀ b, (rest b).Issues ApiCall.Quiet) :
    (Api.tryExcept body handler rest).Issues ApiCall.Quiet := by
  refine (issues_attempt.2 hbody).bind fun o => ?_
  rcases o with x | b
  · dsimp only
    cases handler x <;> trivial
  · exact hrest b

/-- What the checks of the runtime come to, and that they make no flow call. -/
theorem run_readyChecks (runtime : Runtime) (l : List ApiCall) : readyChecks.Issues ApiCall.Quiet ∧ ∃ l',
    readyChecks.run (answer runtime) l = ((readiness runtime).mapError .raised, l') := by
  constructor
  · refine (Api.issues_call (c := .runtimeView) rfl).bind fun view => ?_
    refine (Api.issues_call (c := .repositoryReady) rfl).bind fun _ => ?_
    exact (Api.issues_call (c := .cloudReady) rfl).bind fun _ => trivial
  · refine ⟨_, Prod.ext ?_ rfl⟩
    unfold readiness
    refine (congrArg Prod.fst (run_call_bind .runtimeView _ _)).trans ?_
    rcases runtime .runtimeView with x | view
    · rfl
    refine (congrArg Prod.fst (run_call_bind .repositoryReady _ _)).trans ?_
    rcases runtime .repositoryReady with x | _
    · rfl
    refine (congrArg Prod.fst (run_call_bind .cloudReady _ _)).trans ?_
    rcases runtime .cloudReady with x | _ <;> rfl

/-- `_ready` makes no flow call, and answers when the checks of the runtime raise what it expects. -/
theorem run_ready (r : Request) : flows ((ready r).run (answer runtime) []).2 = [] ∧
    (Answers runtime (ready r) [] ↔ (r.method = ofString "GET" → r.bare →
      ∀ x, readiness runtime = .error x → isReadyError x)) := by
  unfold ready
  by_cases hget : r.method = ofString "GET"
  swap
  · rw [if_pos hget]
    exact ⟨rfl, iff_of_true (answers_return ..) fun h => absurd h hget⟩
  rw [if_neg (not_not.2 hget)]
  by_cases hbare : r.bare = true
  swap
  · rw [if_pos (by simpa using hbare)]
    exact ⟨rfl, iff_of_true (answers_return ..) fun _ h => absurd h hbare⟩
  rw [if_neg (by simpa using hbare)]
  obtain ⟨hquiet, l', hchecks⟩ := run_readyChecks runtime []
  refine ⟨flows_run (issues_tryExcept hquiet fun _ => issues_ret _) [], ?_⟩
  rw [answers_tryExcept hchecks, settled_iff fun view => answers_return ..]
  exact ⟨fun h _ _ => h, fun h => h hget hbare⟩

end Runs

section Handled

variable {a : LocalApiTokenAuthorizer} {runtime : Runtime} {r : Request}

omit [JudgeUi]

omit [FloatRepr] in
/-- `_status` makes no flow call, and answers when reading the run raises what it expects. -/
theorem run_status (r : Request) (raw : Text) :
    flows ((status a r raw).run (answer runtime) []).2 = [] ∧
    (Answers runtime (status a r raw) [] ↔ ∀ p runId, protectedPrincipal a r "GET" = .ok p → r.bare →
      runId? raw = some runId → ∀ x, shown runtime runId = .error x → isStatusError x) := by
  unfold status
  rcases hp : protectedPrincipal a r "GET" with response | p
  · exact ⟨rfl, iff_of_true (answers_return ..) fun p runId h => by cases h⟩
  dsimp only
  by_cases hbare : r.bare = true
  swap
  · rw [if_pos (by simpa using hbare)]
    exact ⟨rfl, iff_of_true (answers_return ..) fun p runId _ h => absurd h hbare⟩
  rw [if_neg (by simpa using hbare)]
  rcases hrun : runId? raw with _ | runId
  · exact ⟨rfl, iff_of_true (answers_return ..) fun p runId _ _ h => by cases h⟩
  dsimp only
  have hview : (Api.tryExcept (Api.call (.runView runId))
      (answering isStatusError (errorResponse .internalError 500))
      fun view => return okResponse 200 view).Issues ApiCall.Quiet :=
    issues_tryExcept (Api.issues_call (c := .runView runId) rfl) fun _ => issues_ret _
  refine ⟨flows_run (issues_tryExcept (Api.issues_call (c := .readRunSnapshot runId) rfl)
    fun run => ?_) [], ?_⟩
  · rcases run with _ | run
    · exact issues_ret _
    · exact hview
  have hgoal : (∀ p' runId', (Except.ok p : Except Response LocalOperatorPrincipal) = .ok p' →
      r.bare → some runId = some runId' → ∀ x, shown runtime runId' = .error x → isStatusError x) ↔
      ∀ x, shown runtime runId = .error x → isStatusError x := by
    constructor
    · intro h
      exact h p runId rfl hbare rfl
    · rintro h p' runId' - - hrun'
      cases hrun'
      exact h
  rw [hgoal, answers_tryExcept (Api.run_call (.readRunSnapshot runId) [])]
  unfold shown
  rcases runtime (.readRunSnapshot runId) with x | run
  · constructor
    · rintro h y hy
      cases hy
      exact h
    · exact fun h => h x rfl
  rcases run with _ | run
  · exact iff_of_true (answers_return ..) fun x h => by cases h
  · refine (answers_tryExcept (Api.run_call (.runView runId) _)).trans ?_
    rw [settled_iff fun view => answers_return ..]
    rcases hshow : runtime (.runView runId) with x | view
    · constructor
      · rintro h y hy
        cases hy
        exact h x rfl
      · rintro h y hy
        cases hy
        exact h x rfl
    · exact iff_of_true (fun y h => by cases h) fun y h => by cases h

omit [Lax] in
/-- `_session` makes no flow call, and answers unless it has to encode a surrogate. -/
theorem run_session (r : Request) : flows ((session a r).run (answer runtime) []).2 = [] ∧
    (Answers runtime (session a r) [] ↔ (r.method = ofString "POST" →
      ∀ t, bearerCandidate? r.headers = some t → (encode t).isSome)) := by
  have hget : ofString "GET" ≠ ofString "POST" := by decide
  have hdelete : ofString "DELETE" ≠ ofString "POST" := by decide
  unfold session
  split
  · next h =>
    have hother : ¬ r.method = ofString "POST" := fun hpost => hget (h.symm.trans hpost)
    split
    · exact ⟨rfl, iff_of_true (answers_return ..) fun h => absurd h hother⟩
    split
    · exact ⟨rfl, iff_of_true (answers_return ..) fun h => absurd h hother⟩
    · exact ⟨rfl, iff_of_true (answers_return ..) fun h => absurd h hother⟩
  split
  · next h =>
    have hother : ¬ r.method = ofString "POST" := fun hpost => hdelete (h.symm.trans hpost)
    split
    · exact ⟨rfl, iff_of_true (answers_return ..) fun h => absurd h hother⟩
    · exact ⟨rfl, iff_of_true (answers_return ..) fun h => absurd h hother⟩
  split
  · next h => exact ⟨rfl, iff_of_true (answers_return ..) fun hpost => absurd hpost h⟩
  · next h =>
    have hpost : r.method = ofString "POST" := not_not.1 h
    unfold issueBrowserSession authorizeBearer
    rcases hc : bearerCandidate? r.headers with _ | t
    · exact ⟨rfl, iff_of_true (answers_return ..) fun _ t h => by cases h⟩
    dsimp only
    rcases he : encode t with _ | bytes
    · -- the encoder raises
      refine ⟨rfl, iff_of_false ?_ ?_⟩
      · rintro ⟨response, hr⟩
        cases hr
      · intro hencodes
        have := hencodes hpost t rfl
        rw [he] at this
        cases this
    · have hencodes : r.method = ofString "POST" → ∀ t', some t = some t' → (encode t').isSome := by
        rintro - t' h
        cases h
        rw [he]
        rfl
      exact ⟨rfl, iff_of_true ⟨_, rfl⟩ hencodes⟩

/-- A route that makes the one call it is asked for, if any, and answers unless that fails with a
    code that the public error does not take. -/
def Served (runtime : Runtime) (p : Api Response) (asks : FlowCall → Prop) : Prop :=
  (∃ f, (∀ g, asks g ↔ g = f) ∧ flows (p.run (answer runtime) []).2 = [f] ∧
    (Answers runtime p [] ↔
      ∀ failure, runtime (.flow f) = .ok (.failed failure) → PublicFailureCode failure.code)) ∨
    (∀ g, ¬ asks g) ∧ flows (p.run (answer runtime) []).2 = [] ∧ Answers runtime p []

omit [Sha256Bytes] [FloatRepr] [Lax] in
theorem served_flowResponse {status : Nat} {prepare : Api FlowCall} {asks : FlowCall → Prop}
    {x : Except ApiExc FlowCall} {l : List ApiCall}
    (h : prepare.run (answer runtime) [] = (x, l)) (hl : flows l = [])
    (hasks : ∀ g, asks g ↔ x = .ok g) : Served runtime (flowResponse status prepare) asks := by
  rcases x with y | f
  · obtain ⟨response, hr⟩ := run_flowResponse_refused status h
    refine .inr ⟨fun g hg => ?_, ?_, response, ?_⟩
    · have := (hasks g).1 hg
      cases this
    · rw [hr]
      exact hl
    · rw [hr]
  · refine .inl ⟨f, fun g => ?_, ?_, ?_⟩
    · rw [hasks]
      exact ⟨fun h => (Except.ok.inj h).symm, fun h => by rw [h]⟩
    · rw [run_flowResponse h, flows_append_flow, hl]
      rfl
    · unfold Answers
      rw [run_flowResponse h]
      exact flowOutcome_ok

omit [Sha256Bytes] [FloatRepr] [Lax] in
theorem served_return (response : Response) {asks : FlowCall → Prop} (h : ∀ g, ¬ asks g) :
    Served runtime (return response) asks := .inr ⟨h, rfl, answers_return ..⟩

omit [FloatRepr] in
theorem served_onRun (a : LocalApiTokenAuthorizer) (r : Request) (raw : Text)
    (prepare : UUID → LocalOperatorPrincipal → Except Rejected FlowCall) :
    Served runtime (onRun a r raw prepare) (Prepares a r raw prepare) := by
  unfold onRun Prepares
  rcases protectedPrincipal a r "POST" with response | p
  · refine served_return _ ?_
    rintro g ⟨p, runId, h, -⟩
    cases h
  dsimp only
  rcases runId? raw with _ | runId
  · refine served_return _ ?_
    rintro g ⟨p, runId, -, h, -⟩
    cases h
  refine served_flowResponse (Api.run_ofRejected (prepare runId p) []) rfl fun g => ?_
  constructor
  · rintro ⟨p', runId', hp, hrun, hg⟩
    cases hp
    cases hrun
    rw [hg]
    rfl
  · intro h
    rcases hprepare : prepare runId p with x | f
    · rw [hprepare] at h
      cases h
    · rw [hprepare] at h
      cases h
      exact ⟨p, runId, rfl, rfl, hprepare⟩

omit [Lax] in
theorem served_start (a : LocalApiTokenAuthorizer) (r : Request) :
    Served runtime (start a r) fun f => ∃ p start run, protectedPrincipal a r "POST" = .ok p ∧
      jsonModel r LocalStartRunRequest.read = .ok start ∧ created runtime = .ok run ∧
      f = .execute run start.toQuery := by
  unfold start
  rcases protectedPrincipal a r "POST" with response | p
  · refine served_return _ ?_
    rintro g ⟨p, start, run, h, -⟩
    cases h
  dsimp only
  rcases jsonModel r LocalStartRunRequest.read with x | body
  · refine served_flowResponse (x := .error (.rejected x)) (l := []) rfl rfl fun g => ?_
    refine iff_of_false ?_ fun h => by cases h
    rintro ⟨p, start, run, -, h, -⟩
    cases h
  obtain ⟨l, hl, hrun⟩ := run_createRun runtime []
  rcases hcreated : created runtime with x | run
  · rw [hcreated] at hrun
    refine served_flowResponse (x := .error (.raised x)) (l := l) ?_ hl fun g => ?_
    · exact run_bind_error (answer runtime) (p := createRun) hrun
    · refine iff_of_false ?_ fun h => by cases h
      rintro ⟨p, start, run, -, -, h, -⟩
      cases h
  · rw [hcreated] at hrun
    refine served_flowResponse (x := .ok (.execute run body.toQuery)) (l := l) ?_ hl fun g => ?_
    · exact run_bind_ok (answer runtime) (p := createRun) hrun
    · constructor
      · rintro ⟨p, start, run, -, hstart, hcreated, rfl⟩
        cases hstart
        cases hcreated
        rfl
      · intro h
        cases h
        exact ⟨p, body, run, rfl, rfl, rfl, rfl⟩

end Handled

/-! ## The gate -/

section Contained

variable {a : LocalApiTokenAuthorizer} {casefold : Text → Text} {runtime : Runtime}
  {event : ApiEvent} {r : Request}

/-- What the routes without a flow call need of the request and the runtime: a Bearer candidate for a
    session encodes, and the runtime raises what the route expects. -/
def Covered (a : LocalApiTokenAuthorizer) (runtime : Runtime) (r : Request) : Prop :=
  match route r.path with
  | .session => r.method = ofString "POST" →
      ∀ t, bearerCandidate? r.headers = some t → (encode t).isSome
  | .ready => r.method = ofString "GET" → r.bare →
      ∀ x, readiness runtime = .error x → isReadyError x
  | .status raw => ∀ p runId, protectedPrincipal a r "GET" = .ok p → r.bare →
      runId? raw = some runId → ∀ x, shown runtime runId = .error x → isStatusError x
  | _ => True

/-- What a flow call needs: a Bearer candidate is the token and not another text with its digest, and
    a failure has a code that the public error takes. -/
structure Contained (a : LocalApiTokenAuthorizer) (runtime : Runtime) (r : Request) : Prop where
  token : ∀ f, Asks a runtime r f →
    ∀ t, bearerCandidate? r.headers = some t → t = ofString a.token
  code : ∀ f, Asks a runtime r f →
    ∀ failure, runtime (.flow f) = .ok (.failed failure) → PublicFailureCode failure.code
  covered : Covered a runtime r

/-- A handler makes the flow call its request asks for, or none, and answers when the request is
    covered. -/
theorem handleRequest_cases (a : LocalApiTokenAuthorizer) (runtime : Runtime) (r : Request) :
    Served runtime (handleRequest a r) (Asks a runtime r) ∧ Covered a runtime r ∨
      (∀ f, ¬ Asks a runtime r f) ∧ flows ((handleRequest a r).run (answer runtime) []).2 = [] ∧
        (Answers runtime (handleRequest a r) [] ↔ Covered a runtime r) := by
  unfold handleRequest Asks Covered
  generalize route r.path = route
  cases route with
  | health => exact .inl ⟨served_return _ fun _ h => h, trivial⟩
  | ready => exact .inr ⟨fun _ h => h, run_ready r⟩
  | page => exact .inl ⟨served_return _ fun _ h => h, trivial⟩
  | session => exact .inr ⟨fun _ h => h, run_session r⟩
  | start => exact .inl ⟨served_start a r, trivial⟩
  | unknown => exact .inl ⟨served_return _ fun _ h => h, trivial⟩
  | approvalRequest raw => exact .inl ⟨served_onRun a r raw _, trivial⟩
  | decision raw => exact .inl ⟨served_onRun a r raw _, trivial⟩
  | resume raw => exact .inl ⟨served_onRun a r raw _, trivial⟩
  | status raw => exact .inr ⟨fun _ h => h, run_status r raw⟩

/-- **The gate is sound when it is contained, and only then**: for every event, token and runtime,
    `handle` answers without raising, makes at most one flow call, and makes it only for an event that
    opens it, if and only if the event is rejected or its request is contained. -/
theorem gate_sound_iff (a : LocalApiTokenAuthorizer) (casefold : Text → Text) (runtime : Runtime)
    (event : ApiEvent) : Sound a casefold runtime event ↔
      ∀ r, parseRequest casefold event = .ok r → Contained a runtime r := by
  rcases hparse : parseRequest casefold event with rejection | r
  · refine iff_of_true ?_ fun r h => by cases h
    have houtcome : outcome a casefold runtime event = (.ok rejection.response, []) := by
      unfold outcome handle
      rw [hparse]
      rfl
    refine ⟨?_, ?_, ?_⟩
    · rw [houtcome]
      exact ⟨_, rfl⟩
    · rw [houtcome]
      exact Nat.zero_le _
    · rw [houtcome]
      exact fun call h => absurd h List.not_mem_nil
  · obtain ⟨fields, rfl, hparsed⟩ := parseRequest_ok hparse
    have houtcome : outcome a casefold runtime (.mapping fields) =
        (handleRequest a r).run (answer runtime) [] := by
      unfold outcome handle
      rw [hparse]
    have hrequest : (∀ r', (.ok r : Except Rejected Request) = .ok r' → Contained a runtime r') ↔
        Contained a runtime r := ⟨fun h => h r rfl, fun h r' hr' => Except.ok.inj hr' ▸ h⟩
    have hopens : ∀ f, (∃ fields', ApiEvent.mapping fields = .mapping fields' ∧
        Opens a casefold fields' f) ↔ Opens a casefold fields f := by
      intro f
      constructor
      · rintro ⟨fields', hfields, h⟩
        cases hfields
        exact h
      · exact fun h => ⟨fields, rfl, h⟩
    rw [hrequest]
    rcases handleRequest_cases a runtime r with
      ⟨⟨f, hunique, hflows, hanswers⟩ | ⟨hnone, hflows, hanswers⟩, hcovered⟩ |
        ⟨hnone, hflows, hanswers⟩
    · -- the one call that is asked for is made
      have hasks : Asks a runtime r f := (hunique f).2 rfl
      constructor
      · rintro ⟨htotal, -, hopened⟩
        rw [houtcome] at htotal hopened
        rw [hflows] at hopened
        refine ⟨fun g hg => ?_, fun g hg => ?_, hcovered⟩
        · obtain rfl := (hunique g).1 hg
          exact (opens_iff hparsed hg).1 ((hopens g).1 (hopened g List.mem_cons_self))
        · obtain rfl := (hunique g).1 hg
          exact hanswers.1 htotal
      · rintro ⟨htoken, hcode, -⟩
        refine ⟨?_, ?_, ?_⟩
        · rw [houtcome]
          exact hanswers.2 (hcode f hasks)
        · rw [houtcome, hflows]
          exact Nat.le_refl 1
        · rw [houtcome, hflows]
          intro g hg
          obtain rfl := List.mem_singleton.1 hg
          exact (hopens g).2 ((opens_iff hparsed hasks).2 (htoken g hasks))
    · -- nothing is asked for
      refine iff_of_true ⟨?_, ?_, ?_⟩ ⟨fun f h => absurd h (hnone f), fun f h => absurd h (hnone f),
        hcovered⟩
      · rw [houtcome]
        exact hanswers
      · rw [houtcome, hflows]
        exact Nat.zero_le 1
      · rw [houtcome, hflows]
        exact fun f h => absurd h List.not_mem_nil
    · -- a route without a flow call
      constructor
      · rintro ⟨htotal, -, -⟩
        rw [houtcome] at htotal
        exact ⟨fun f h => absurd h (hnone f), fun f h => absurd h (hnone f), hanswers.1 htotal⟩
      · rintro ⟨-, -, hcovered⟩
        refine ⟨?_, ?_, ?_⟩
        · rw [houtcome]
          exact hanswers.2 hcovered
        · rw [houtcome, hflows]
          exact Nat.zero_le 1
        · rw [houtcome, hflows]
          exact fun f h => absurd h List.not_mem_nil

end Contained

end Gate

/-! ## A token that does not encode -/

section Sample

abbrev sampleHash : Sha256Bytes := ⟨Sha256.digest⟩
abbrev sampleFloats : FloatRepr := ⟨id⟩
abbrev sampleLax : Lax := ⟨fun _ => none, fun _ => none⟩
abbrev samplePage : JudgeUi := ⟨"", []⟩

attribute [local instance] sampleHash sampleFloats sampleLax samplePage

def sampleAuthorizer : LocalApiTokenAuthorizer :=
  ⟨"kkkkkkkkkkkkkkkkkkkkkkkkkkkkkkkk", by decide⟩

/-- A session is asked for with 32 lone surrogates in place of the token. -/
def surrogateEvent : ApiEvent := .mapping {
  method := .text (ofString "POST")
  path := .text (ofString "/api/session")
  query := none
  body := .none
  headers := .mapping [(some (ofString "authorization"),
    .text (ofString "Bearer " ++ List.replicate 32 (.surrogate 0)))] }

/-- The encoder's exception escapes `handle`. -/
theorem surrogate_escapes : (outcome sampleAuthorizer JudgeTokenAuthorizer.lower
      (fun _ => .error (.other "not called")) surrogateEvent).1 =
        .error (.raised (.valueError "surrogates not allowed")) ∧
    ¬ ∀ a casefold runtime event, Sound a casefold runtime event := by
  have hraised : (outcome sampleAuthorizer JudgeTokenAuthorizer.lower
      (fun _ => .error (.other "not called")) surrogateEvent).1 =
        .error (.raised (.valueError "surrogates not allowed")) := by rfl
  refine ⟨hraised, fun h => ?_⟩
  obtain ⟨response, hresponse⟩ := (h sampleAuthorizer JudgeTokenAuthorizer.lower
    (fun _ => .error (.other "not called")) surrogateEvent).total
  rw [hraised] at hresponse
  cases hresponse

end Sample

end LocalApi

end CloudOpsAgent
