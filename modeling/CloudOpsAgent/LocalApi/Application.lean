/-
  `LocalApiApplication`: public liveness and page, and the authenticated routes of the workflow.

      event ─ _parse_request ─→ request ─ path ─┬─ /health, /, /ready        public
                                                ├─ /api/session              issue and clear the cookie
                                                ├─ /api/runs                 phase one
                                                ├─ /api/runs/{id}            read only
                                                └─ …/approval-request, …/decision, …/resume   phase two

  The runtime behind it is only ever called: `ApiCall` lists the calls, `Runtime` is any way to answer
  them, by a value or an exception, and a handler is a program over the calls.  What the application
  passes on of a result is its dump, so that is what a result is here.  No handler makes a call twice:
  what the clock and the factories give is numbered by the call.
-/
import CloudOpsAgent.LocalApi.Contracts
import CloudOpsAgent.Lib.Prog

namespace CloudOpsAgent

open PyText ClientProg ClientProg.Prog

/-- The embedded page and its headers, constants of `judge_ui.py`. -/
class JudgeUi where
  body : String
  headers : List (String × String)

namespace LocalApi

/-! ## Events and requests -/

def LOCAL_API_BODY_MAX_BYTES : Nat := 16384
def LOCAL_API_HEADER_MAX_COUNT : Nat := 64
def LOCAL_API_HEADER_VALUE_MAX_LENGTH : Nat := 4096

/-- What an event holds under a key, `None` where it has nothing. -/
inductive EventValue where
  | none
  | text (t : Text)
  | other

inductive EventHeaders where
  | none
  | mapping (items : Headers)
  | other

/-- What `_parse_request` asks of a mapping. -/
structure EventFields where
  method : EventValue
  path : EventValue
  query : Option EventValue
  body : EventValue
  headers : EventHeaders

inductive ApiEvent where
  | mapping (fields : EventFields)
  | other

/-- `_Request`; the body encodes, so it is a `String`. -/
structure Request where
  method : Text
  path : Text
  headers : HeaderTexts
  body : Option String
  query : Text

/-- `_Rejected`. -/
structure Rejected where
  code : LocalApiErrorCode
  status : Nat
  deriving DecidableEq

def badRequest : Rejected := ⟨.badRequest, 400⟩

/-- The names and texts of the headers, if every header is fit for both. -/
def headerTexts? (items : Headers) : Option HeaderTexts :=
  items.mapM fun
    | (some name, .text value) =>
      if name ≠ [] ∧ PyText.isStripped name ∧ name.length ≤ 128 ∧
          value.length ≤ LOCAL_API_HEADER_VALUE_MAX_LENGTH then some (name, value)
      else none
    | _ => none

section Parse

-- `str.casefold` is a parameter
variable (casefold : Text → Text)

/-- `_headers`. -/
def normalizedHeaders : EventHeaders → Except Rejected HeaderTexts
  | .none => .ok []
  | .other => .error badRequest
  | .mapping items =>
    if LOCAL_API_HEADER_MAX_COUNT < items.length then .error badRequest
    else match headerTexts? items with
      | none => .error badRequest
      | some texts =>
        let folded := texts.map fun (name, value) => (casefold name, value)
        if (folded.map Prod.fst).Nodup then .ok folded else .error badRequest

/-- `[A-Z]{3,16}`. -/
def isMethod (t : Text) : Bool :=
  3 ≤ t.length && t.length ≤ 16 && t.all fun p => 65 ≤ p.toNat && p.toNat ≤ 90

/-- The body of an event: absent, or a text that encodes and is not too long. -/
def parsedBody : EventValue → Except Rejected (Option String)
  | .none => .ok none
  | .other => .error badRequest
  | .text t => match string? t with
    | none => .error badRequest
    | some body =>
      if LOCAL_API_BODY_MAX_BYTES < body.utf8ByteSize then .error ⟨.payloadTooLarge, 413⟩
      else .ok (some body)

/-- `_parse_request`; what is wrong with the body is all left to `parsedBody`. -/
def parseRequest : ApiEvent → Except Rejected Request
  | .mapping ⟨.text method, .text path, query, body, headers⟩ =>
    match query.getD (.text []) with
    | .text query =>
      if !isMethod method ∨ path.head? ≠ some (.char '/') ∨ 256 < path.length then .error badRequest
      else do
        let body ← parsedBody body
        let headers ← normalizedHeaders casefold headers
        return ⟨method, path, headers, body, query⟩
    | _ => .error badRequest
  | _ => .error badRequest

end Parse

/-- `request.headers.get(name)`. -/
def Request.header (r : Request) (name : String) : Option Text := r.headers.lookup (ofString name)

/-- `not request.query and request.body in (None, "")`. -/
def Request.bare (r : Request) : Bool := r.query = [] && r.body.all (· = "")

/-- `_json_model`. -/
def jsonModel [FloatRepr] {α : Type} (r : Request) (read : Json → Option α) : Except Rejected α :=
  if r.query ≠ [] then .error badRequest
  else if r.header "content-type" ≠ some (ofString "application/json") then
    .error ⟨.unsupportedMediaType, 415⟩
  else match r.body with
    | none => .error badRequest
    | some body => match StrictJson.strictJson body with
      | .error _ => .error badRequest
      | .ok j => match read j with
        | none => .error badRequest
        | some value => .ok value

/-! ## Responses -/

structure Response where
  statusCode : Nat
  headers : List (String × String)
  body : String

/-- `_JSON_HEADERS`. -/
def jsonHeaders : List (String × String) := [
  ("cache-control", "no-store"),
  ("content-security-policy", "default-src 'none';base-uri 'none';frame-ancestors 'none'"),
  ("content-type", "application/json"),
  ("permissions-policy", "camera=(),geolocation=(),microphone=()"),
  ("referrer-policy", "no-referrer"),
  ("x-content-type-options", "nosniff"),
  ("x-frame-options", "DENY")]

/-- `_response` of a JSON value. -/
def response (status : Nat) (body : Json) (headers : List (String × String) := jsonHeaders) :
    Response := ⟨status, headers, body.dumps⟩

/-- `_ok`. -/
def okResponse (status : Nat) (value : Json) (headers : List (String × String) := jsonHeaders) :
    Response := response status (.obj [("ok", .bool true), ("result", value)]) headers

/-- `_error`, without a failure. -/
def errorResponse (code : LocalApiErrorCode) (status : Nat) (retryable : Bool := false) : Response :=
  response status (LocalApiErrorResponse.dump { error := code, retryable := retryable })

def Rejected.response (r : Rejected) : Response := errorResponse r.code r.status

/-- The error and the status that `_flow_failure` maps a kind to. -/
def failureStatus : FailureKind → LocalApiErrorCode × Nat
  | .notFound => (.notFound, 404)
  | .validationFailure => (.badRequest, 400)
  | .policyDenial => (.policyDenied, 403)
  | .idempotencyConflict | .recoveryRequirement | .illegalStateTransition => (.conflict, 409)
  | .dependencyUnavailable | .storageFailure | .providerFailure | .toolAdapterFailure =>
    (.dependencyUnavailable, 503)
  | _ => (.workflowFailed, 422)

/-- `_flow_failure`: the public error has a narrower bound on codes than the failures have. -/
def flowFailure (failure : FailureDetail) : Except PyExc Response :=
  let (error, status) := failureStatus failure.kind
  if h : PublicFailureCode failure.code then
    .ok <| response status <| LocalApiErrorResponse.dump
      ⟨error, some failure.kind, some failure.code, failure.retryable, by simpa using h⟩
  else .error (.valueError "failure_code")

/-! ## The runtime -/

/-- The calls that act for an operator. -/
inductive FlowCall where
  | execute (run : Run) (query : ResourceQuery)
  | requestApproval (runId : UUID) (principal : LocalOperatorPrincipal)
  | decide (decision : LocalDecisionRequest) (principal : LocalOperatorPrincipal)
  | resume (runId : UUID) (principal : LocalOperatorPrincipal)

/-- Everything a handler calls. -/
inductive ApiCall where
  | flow (call : FlowCall)
  | clock
  | runId
  /-- The `k`-th call of the factory. -/
  | traceId (k : Nat)
  | runtimeView
  | repositoryReady
  | cloudReady
  /-- `read_run_snapshot`, as far as the application looks: at its run. -/
  | readRunSnapshot (runId : UUID)
  /-- `run_view` of the snapshot that was read. -/
  | runView (runId : UUID)

/-- What a call returns; models that are passed on by their dumps. -/
def ApiCall.Result : ApiCall → Type
  | flow _ => ControlResult Json
  | clock => Reading
  | runId | traceId _ => UUID
  | runtimeView | runView _ => Json
  | repositoryReady | cloudReady => Unit
  | readRunSnapshot _ => Option Run

/-- How a runtime behaves: it returns, or raises an `Exception`. -/
abbrev Runtime := (call : ApiCall) → Except PyExc call.Result

/-- What a handler may raise. -/
inductive ApiExc where
  | rejected (r : Rejected)
  | raised (x : PyExc)

abbrev Api (α : Type) := Prog ApiCall (fun call => Except PyExc call.Result) ApiExc α

namespace Api

variable {α β : Type}

def call (c : ApiCall) : Api c.Result := Prog.call c fun
  | .ok value => .ret value
  | .error x => .raise (.raised x)

/-- A call of a flow. -/
def flow (f : FlowCall) : Api (ControlResult Json) := call (.flow f)

/-- Code of the application that rejects. -/
def ofRejected : Except Rejected α → Api α
  | .ok a => .ret a
  | .error r => .raise (.rejected r)

/-- Code of the application that raises. -/
def ofRaised : Except PyExc α → Api α
  | .ok a => .ret a
  | .error x => .raise (.raised x)

/-- `try: body` `except …: return …` and what comes after; a handler that answers `none` does not
    catch. -/
def tryExcept (body : Api α) (handler : ApiExc → Option Response) (rest : α → Api Response) :
    Api Response :=
  body.attempt >>= fun
    | .ok a => rest a
    | .error x => match handler x with
      | some response => .ret response
      | none => .raise x

end Api

/-! ## Handlers -/

section Handlers

variable [Sha256Bytes] (a : LocalApiTokenAuthorizer)

/-- `_principal`. -/
def principal (r : Request) : Option LocalOperatorPrincipal :=
  match a.authorize r.headers with
  | .ok p => p
  | .error _ => none

/-- `_protected`. -/
def protectedPrincipal (r : Request) (method : String) : Except Response LocalOperatorPrincipal :=
  if r.method ≠ ofString method then .error (errorResponse .methodNotAllowed 405)
  else match principal a r with
    | none => .error (errorResponse .unauthorized 401)
    | some p =>
      if method ≠ "GET" ∧ (r.header "authorization").isNone ∧
          r.header "x-aioa-intent" ≠ some (ofString "judge-console-v1") then
        .error (errorResponse .unauthorized 401)
      else .ok p

/-- `_public_get`. -/
def publicGet (r : Request) (response : Response) : Response :=
  if r.method ≠ ofString "GET" then errorResponse .methodNotAllowed 405
  else if !r.bare then errorResponse .badRequest 400
  else response

/-- Caught by the `except` of `_ready`. -/
def isReadyError : PyExc → Bool
  | .cloudAdapterUnavailable | .typeError _ => true
  | x => x.isValueError

/-- Caught by the two `except` clauses of `_status`: a storage error is a value error. -/
def isStatusError : PyExc → Bool
  | .typeError _ => true
  | x => x.isValueError

/-- `except` of the classes in `caught`, with one answer. -/
def answering (caught : PyExc → Bool) (response : Response) : ApiExc → Option Response
  | .raised x => if caught x then some response else none
  | .rejected _ => none

/-- The `try` block of `_ready`. -/
def readyChecks : Api Json := do
  let view ← Api.call .runtimeView
  Api.call .repositoryReady
  Api.call .cloudReady
  return view

/-- `_ready`. -/
def ready (r : Request) : Api Response :=
  if r.method ≠ ofString "GET" then return errorResponse .methodNotAllowed 405
  else if !r.bare then return errorResponse .badRequest 400
  else
    Api.tryExcept readyChecks
      (answering isReadyError (errorResponse .dependencyUnavailable 503 true))
      fun view => return response 200 (.obj [("status", .str "ready"), ("process_status", .str "READY"),
        ("provider_status", .str "READY"), ("sandbox_status", .str "READY"), ("runtime", view)])

/-- `LocalBrowserSessionView`, dumped. -/
def sessionView (authenticated : Bool) : Json :=
  .obj <| ("authenticated", .bool authenticated) ::
    if authenticated then [("storage", .str "http_only_session_cookie")] else []

/-- `_SESSION_COOKIE` with a value, `_CLEAR_SESSION_COOKIE` without. -/
def sessionCookie (value : Option String) : String :=
  LOCAL_API_SESSION_COOKIE ++ "=" ++ value.getD "" ++ "; HttpOnly; SameSite=Strict; Path=/" ++
    if value.isNone then "; Max-Age=0" else ""

variable [FloatRepr]

omit [Sha256Bytes] in
/-- The answer of `_session` once the authorizer has issued a session, or refused to. -/
def issueResponse (r : Request) : Option String → Response
  | none => errorResponse .unauthorized 401
  | some session =>
    match jsonModel r EmptyRequest.read with
    | .error rejection => rejection.response
    | .ok () =>
      okResponse 200 (sessionView true) (jsonHeaders ++ [("set-cookie", sessionCookie (some session))])

/-- `_session`; it calls the authorizer outside of any `try`. -/
def session (r : Request) : Api Response :=
  if r.method = ofString "GET" then
    if !r.bare then return errorResponse .badRequest 400
    else if (principal a r).isNone then return errorResponse .unauthorized 401
    else return okResponse 200 (sessionView true)
  else if r.method = ofString "DELETE" then
    if !r.bare then return errorResponse .badRequest 400
    else return okResponse 200 (sessionView false) (jsonHeaders ++ [("set-cookie", sessionCookie none)])
  else if r.method ≠ ofString "POST" then return errorResponse .methodNotAllowed 405
  else do
    let issued ← Api.ofRaised (a.issueBrowserSession r.headers)
    return issueResponse r issued

variable [Lax]

/-- `_run_id`. -/
def runId? (raw : Text) : Option UUID := (string? raw).bind fun s => (Json.str s).uuid7?

/-- `_status`. -/
def status (r : Request) (raw : Text) : Api Response :=
  match protectedPrincipal a r "GET" with
  | .error response => return response
  | .ok _ =>
    if !r.bare then return errorResponse .badRequest 400
    else match runId? raw with
      | none => return errorResponse .badRequest 400
      | some runId =>
        Api.tryExcept (Api.call (.readRunSnapshot runId))
          (answering isStatusError (errorResponse .dependencyUnavailable 503 true))
          fun
          | none => return errorResponse .notFound 404
          | some _ =>
            Api.tryExcept (Api.call (.runView runId))
              (answering isStatusError (errorResponse .internalError 500))
              fun view => return okResponse 200 view

/-- `except _Rejected` and `except Exception` of the routes that call a flow. -/
def flowHandler : ApiExc → Option Response
  | .rejected r => some r.response
  | .raised _ => some (errorResponse .internalError 500)

/-- `prepare` a call, make it, and answer with its result. -/
def flowResponse (status : Nat) (prepare : Api FlowCall) : Api Response :=
  let body : Api (ControlResult Json) := do
    let f ← prepare
    Api.flow f
  Api.tryExcept body flowHandler fun
    | .failed failure => Api.ofRaised (flowFailure failure)
    | .succeeded value => return okResponse status value

/-- `Run.new`, with the budget the application gives. -/
def newRun (runId traceId correlationId : UUID) (now : Reading) : Except PyExc Run :=
  if now.utc then
    .ok ⟨runId, traceId, correlationId, "local/api/" ++ runId.str, .received, now.time, now.time,
      { maxTurns := 8, maxTokens := 2048, bounded := by decide, consumption := by decide }, 1,
      Nat.one_pos, le_rfl⟩
  else .error (.valueError "created_at must be a timezone-aware UTC datetime")

/-- The run that `_start` creates. -/
def createRun : Api Run := do
  let now ← Api.call .clock
  let runId ← Api.call .runId
  let traceId ← Api.call (.traceId 0)
  let correlationId ← Api.call (.traceId 1)
  Api.ofRaised (newRun runId traceId correlationId now)

/-- `_start`. -/
def start (r : Request) : Api Response :=
  match protectedPrincipal a r "POST" with
  | .error response => return response
  | .ok _ => flowResponse 201 do
      let start ← Api.ofRejected (jsonModel r LocalStartRunRequest.read)
      let run ← createRun
      return .execute run start.toQuery

/-- The phase-two routes: a protected request for the run of the path. -/
def onRun (r : Request) (raw : Text) (prepare : UUID → LocalOperatorPrincipal → Except Rejected FlowCall) :
    Api Response :=
  match protectedPrincipal a r "POST" with
  | .error response => return response
  | .ok principal =>
    match runId? raw with
    | none => return errorResponse .badRequest 400
    | some runId => flowResponse 200 (Api.ofRejected (prepare runId principal))

/-- The call of `_approval_request`. -/
def approvalRequestCall (r : Request) (runId : UUID) (principal : LocalOperatorPrincipal) :
    Except Rejected FlowCall := do
  let _ ← jsonModel r EmptyRequest.read
  return .requestApproval runId principal

/-- The call of `_decision`. -/
def decisionCall (r : Request) (runId : UUID) (principal : LocalOperatorPrincipal) :
    Except Rejected FlowCall := do
  let decision ← jsonModel r LocalDecisionRequest.read
  if decision.runId ≠ runId then .error badRequest else return .decide decision principal

/-- The call of `_resume`. -/
def resumeCall (r : Request) (runId : UUID) (principal : LocalOperatorPrincipal) :
    Except Rejected FlowCall := do
  let _ ← jsonModel r LocalResumeRequest.read
  return .resume runId principal

/-- `_approval_request`. -/
def approvalRequest (r : Request) (raw : Text) : Api Response := onRun a r raw (approvalRequestCall r)

/-- `_decision`. -/
def decision (r : Request) (raw : Text) : Api Response := onRun a r raw (decisionCall r)

/-- `_resume`. -/
def resume (r : Request) (raw : Text) : Api Response := onRun a r raw (resumeCall r)

/-! ## Routes -/

inductive Route where
  | health | ready | page | session | start | unknown
  | approvalRequest (raw : Text)
  | decision (raw : Text)
  | resume (raw : Text)
  | status (raw : Text)

/-- The name in `/api/runs/{name}` with what follows it. -/
def runName? (suffix path : Text) : Option Text :=
  (afterPrefix (ofString "/api/runs/") path).bind fun rest =>
    if suffix <:+ rest then
      let name := rest.take (rest.length - suffix.length)
      if name ≠ [] ∧ .char '/' ∉ name then some name else none
    else none

/-- The order of `handle`. -/
def route (path : Text) : Route :=
  if path = ofString "/health" then .health
  else if path = ofString "/ready" then .ready
  else if path = ofString "/" then .page
  else if path = ofString "/api/session" then .session
  else if path = ofString "/api/runs" then .start
  else ((runName? (ofString "/approval-request") path).map Route.approvalRequest).getD <|
    ((runName? (ofString "/decision") path).map Route.decision).getD <|
    ((runName? (ofString "/resume") path).map Route.resume).getD <|
    ((runName? [] path).map Route.status).getD .unknown

variable [JudgeUi]

def handleRequest (r : Request) : Api Response :=
  match route r.path with
  | .health => return publicGet r (response 200 (.obj [("mode", .str "mock"),
      ("service", .str "aioa-local-hitl"), ("status", .str "ok")]))
  | .ready => ready r
  | .page => return publicGet r ⟨200, JudgeUi.headers, JudgeUi.body⟩
  | .session => session a r
  | .start => start a r
  | .approvalRequest raw => approvalRequest a r raw
  | .decision raw => decision a r raw
  | .resume raw => resume a r raw
  | .status raw => status a r raw
  | .unknown => return errorResponse .notFound 404

/-- `handle`. -/
def handle (casefold : Text → Text) (event : ApiEvent) : Api Response :=
  match parseRequest casefold event with
  | .error rejection => return rejection.response
  | .ok request => handleRequest a request

end Handlers

end LocalApi

end CloudOpsAgent
