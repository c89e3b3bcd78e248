import MailBaby.Core.Send
import MailBaby.Lib.FanOut
import MailBaby.Lib.Header

/-!
# Sending over HTTP

The handlers of `POST /v1/email/send` and `POST /v1/email/batch`, and the recovering interceptor of the
server in front of them. The headers of the answers are left out.
-/

namespace MailBaby

open Lib

namespace Core

def SendRequest.fields : List (StructField SendRequest) :=
  Email.fields.map (.embed (·.toEmail) fun req e => { req with toEmail := e }) ++
    [.of "async" (·.async) (fun req v => { req with async := v }) .bool]

def BatchRequest.fields : List (StructField BatchRequest) :=
  [.of "emails" (·.emails) (fun req v => { req with emails := v })
      (.slice (.pointer (.struct SendRequest.fields) {}) none),
    .of "async" (·.async) (fun req v => { req with async := v }) .bool]

end Core

namespace Handler

open MailBaby.Core

/-- A request; `async` is the query parameter of this name. -/
structure Request where
  method : String := "POST"
  headers : HeaderLines := []
  async : String := ""
  body : Bytes := []
  /-- Whether the connection fails while the body is read. -/
  bodyFails : Bool := false

/-- `io.ReadAll` of a `MaxBytesReader`. -/
def Request.readBody (r : Request) (limit : Nat) : Option Bytes :=
  if r.bodyFails ∨ limit < r.body.length then none else some r.body

structure SendEmailResponse where
  id : String := ""
  status : String
  message : String
  sentAt : Time

structure BatchSendEmailResponse where
  total : Nat
  succeeded : Nat
  failed : Nat
  results : List (Option SendEmailResponse)

structure ErrorResponse where
  code : Nat
  error : String
  details : String

inductive Body
  | send (resp : SendEmailResponse)
  | batch (resp : BatchSendEmailResponse)
  | error (resp : ErrorResponse)
  | text (content : String)

structure Response where
  statusCode : Nat
  body : Body

def writeError (statusCode : Nat) (errStr details : String) : Response :=
  ⟨statusCode, .error ⟨statusCode, errStr, details⟩⟩

def getOrAssignTraceID (r : Request) : SendProc String :=
  if httpGet r.headers "X-Request-ID" ≠ "" then pure (httpGet r.headers "X-Request-ID")
  else Eff.query fun env _ => env.traceID

/-- The internal error is logged only. -/
def writeInternalError (r : Request) (_internalErr : GoError) (publicCode : String) : SendProc Response := do
  let traceID ← getOrAssignTraceID r
  pure (writeError 500 publicCode ("trace_id=" ++ traceID))

/-- `codec`, `toJSON` and `jsonError` are the parts of the standard library. -/
structure EmailHandler where
  svc : Option SendService
  codec : Codec
  toJSON : Email → Except GoError Bytes
  jsonError : Bytes → GoError

def requestToEmail (req : SendRequest) (generatedID : String) : Email := req.email generatedID

def SendEmailResponse.ofOutcome (out : SendOutcome) : SendEmailResponse :=
  ⟨out.id, out.status, out.message, out.sentAt⟩

def isAsync (r : Request) (async : Bool) : Bool := async || equalFold r.async "true"

namespace EmailHandler

variable (h : EmailHandler)

def sendSync (email : Email) : SendProc (Except GoError SendEmailResponse) :=
  match h.svc with
  | none => pure (.error ⟨"smtp sender is not initialized"⟩)
  | some svc => do
    let out ← svc.sendSync email
    pure (out.map .ofOutcome)

def sendAsync (email : Email) : SendProc (Except GoError SendEmailResponse) :=
  match h.svc with
  | none => pure (.error ⟨"neither queue producer nor sender is available"⟩)
  | some svc => do
    let out ← svc.sendAsync h.toJSON email
    pure (out.map .ofOutcome)

def deliver (async : Bool) (email : Email) : SendProc (Except GoError SendEmailResponse) :=
  if async then h.sendAsync email else h.sendSync email

/-- The checks that both handlers start with: the answer to a bad request, or what it asks for. -/
def parse {α : Type} (d : Decoder α) (zero : α) (limit : Nat) (r : Request) : Except Response α :=
  if r.method ≠ "POST" then .error (writeError 405 "method_not_allowed" "only POST method is supported")
  else match r.readBody limit with
    | none => .error (writeError 400 "invalid_request" "failed to read request body or body too large")
    | some body =>
      match d.unmarshal zero body with
      | none =>
        .error (writeError 400 "invalid_json" ("failed to parse JSON payload: " ++ (h.jsonError body).text))
      | some req => .ok req

def parseSend (r : Request) : Except Response SendRequest :=
  h.parse (.struct SendRequest.fields) {} (32 * 1024 * 1024) r

def parseBatch (r : Request) : Except Response BatchRequest :=
  match h.parse (.struct BatchRequest.fields) {} (64 * 1024 * 1024) r with
  | .error resp => .error resp
  | .ok req =>
    if req.emails.length = 0 then .error (writeError 400 "empty_batch" "emails list cannot be empty")
    else .ok req

def answered (r : Request) (async : Bool) : Except GoError SendEmailResponse → SendProc Response
  | .error err => writeInternalError r err (if async then "enqueue_failed" else "delivery_failed")
  | .ok resp => pure ⟨if async then 202 else 200, .send resp⟩

/-- `HandleSend`, once it has the email. -/
def answer (r : Request) (async : Bool) (email : Email) : SendProc Response :=
  match email.validate h.codec with
  | some err => pure (writeError 400 "validation_error" err.text)
  | none => h.deliver async email >>= answered r async

def handleSend (r : Request) : SendProc Response :=
  match h.parseSend r with
  | .error resp => pure resp
  | .ok req => do
    let generatedID ← Eff.query fun env _ => env.generatedID
    h.answer r (isAsync r req.async) (requestToEmail req generatedID)

/-! ### Batches -/

/-- The flag of the batch decides for every item. -/
def batchAction (r : Request) (req : BatchRequest) (item : Option SendRequest) (generatedID : String) :
    Action :=
  action h.codec (isAsync r req.async) (item.map (requestToEmail · generatedID))

def failed (id message : String) : SendProc (Bool × SendEmailResponse) :=
  Eff.query fun env _ => (false, ⟨id, "failed", message, env.sentAt⟩)

def delivered (async : Bool) (email : Email) : Except GoError SendEmailResponse →
    SendProc (Bool × SendEmailResponse)
  | .error _ => failed email.id (if async then "enqueue failed" else "delivery failed")
  | .ok resp => pure (true, resp)

def answerItem : Action → SendProc (Bool × SendEmailResponse)
  | .rejectNil => failed "" "nil email item in batch"
  | .rejectInvalid email err => failed email.id ("validation failed: " ++ err.text)
  | .deliver async email => h.deliver async email >>= delivered async email

def batchItem (r : Request) (req : BatchRequest) (item : Option SendRequest) :
    SendProc (Bool × SendEmailResponse) := do
  let generatedID ← Eff.query fun env _ => env.generatedID
  h.answerItem (h.batchAction r req item generatedID)

def runItem (r : Request) (req : BatchRequest) (envs : Nat → CallEnv) (i : Nat) :
    Except String (Bool × SendEmailResponse) × Trace :=
  h.batchItem r req (req.emails.getD i none) (envs i) {}

/-- The answer, unless a panic ends the process, and what every item's goroutine called. -/
def handleBatchSend (r : Request) (envs : Nat → CallEnv) (sched : ∀ n, LockOrder n) :
    Option Response × List Trace :=
  match h.parseBatch r with
  | .error resp => (some resp, [])
  | .ok req =>
    let n := req.emails.length
    ((fanOut (fun i => (h.runItem r req envs i).1) (sched n)).map fun t =>
        ⟨200, .batch ⟨n, t.succeeded, t.failed, t.results⟩⟩,
      (List.range n).map fun i => (h.runItem r req envs i).2)

end EmailHandler

/-- The interceptor of the server answers these requests itself. -/
def preflight (corsOrigin : String) (r : Request) : Bool := corsOrigin ≠ "" && r.method = "OPTIONS"

def noContent : Response := ⟨204, .text ""⟩

def recovered : Response := ⟨500, .text "\x7b\"code\":500,\"error\":\"internal_error\"\x7d"⟩

/-- A handler behind the interceptor; a panic of the handler comes before it writes. -/
def intercept (corsOrigin : String) (r : Request) (handler : SendProc Response) : SendProc Response :=
  if preflight corsOrigin r then pure noContent else Eff.recover handler fun _ => recovered

end Handler

end MailBaby
