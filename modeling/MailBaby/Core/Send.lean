import MailBaby.World

/-!
# The send service

`SendService` hands an email to the sender or to the queue on behalf of the HTTP and the gRPC server.
While one email is handled, at most one call leaves the service that the client waits for: a `Send` or
a `Publish`.
-/

namespace MailBaby

open Lib

/-- The message that `SendService.SendAsync` publishes, without options; `data` is the email's
JSON form. -/
def asyncMessage (queueName : String) (now : Time) (email : Email) (data : Bytes) : Message :=
  { id := email.id, payload := data, topic := queueName, timestamp := now, attempts := 1 }

namespace Core

/-- What happens outside while one email is handled: what is drawn at random, the clock when the
message is built and when the answer is, and what the call of `Send` or `Publish` does. -/
structure CallEnv where
  generatedID : String := ""
  traceID : String := ""
  now : Time := 0
  sentAt : Time := 0
  result : CallResult := .returns none

inductive Call
  | send (email : Email) (result : CallResult)
  | publish (msg : Message) (result : CallResult)
  /-- A goroutine is started that sends the email; it recovers from panics. -/
  | background (email : Email)

structure Trace where
  calls : List Call := []
  metrics : List Metric := []

abbrev SendProc := Eff CallEnv Trace

def record (m : Metric) : SendProc Unit := Eff.update fun t => { t with metrics := t.metrics ++ [m] }

def start (c : Call) : SendProc Unit := Eff.update fun t => { t with calls := t.calls ++ [c] }

def invoke (c : CallResult → Call) : SendProc (Option GoError) := do
  let result ← Eff.query fun env _ => env.result
  start (c result)
  match result with
  | .returns err => pure err
  | .panics v => Eff.panic v

structure SendOutcome where
  id : String
  status : String
  message : String
  sentAt : Time

def errSenderUnavailable : GoError := ⟨"core: smtp sender is not initialized"⟩

def errNoTransport : GoError := ⟨"core: neither queue producer nor sender is available"⟩

/-- `sender` and `producer` say whether the fields are set. -/
structure SendService where
  sender : Bool
  producer : Bool
  queueName : String := ""

namespace SendService

variable (s : SendService)

def sendSync (email : Email) : SendProc (Except GoError SendOutcome) :=
  if !s.sender then pure (.error errSenderUnavailable)
  else do
    let err ← invoke (.send email)
    let account := if email.account = "" then "default" else email.account
    match err with
    | some err => do
      record (.emailsSent account "failed")
      pure (.error err)
    | none => do
      record (.emailsSent account "success")
      record (.emailDuration account)
      let sentAt ← Eff.query fun env _ => env.sentAt
      pure (.ok ⟨email.id, "sent", "email sent successfully", sentAt⟩)

def enqueued (email : Email) : SendProc (Except GoError SendOutcome) :=
  Eff.query fun env _ => .ok ⟨email.id, "queued", "email enqueued successfully", env.sentAt⟩

/-- The branch of `SendAsync` for a service with a producer. -/
def publish (email : Email) (msg : Message) : SendProc (Except GoError SendOutcome) := do
  let err ← invoke (.publish msg)
  match err with
  | some err => pure (.error err)
  | none => enqueued email

def sendAsync (toJSON : Email → Except GoError Bytes) (email : Email) :
    SendProc (Except GoError SendOutcome) :=
  match toJSON email with
  | .error err => pure (.error err)
  | .ok data => do
    let now ← Eff.query fun env _ => env.now
    let msg := asyncMessage s.queueName now email data
    if s.producer then publish email msg
    else if s.sender then do
      start (.background email)
      enqueued email
    else pure (.error errNoTransport)

end SendService

/-! ### Requests -/

/-- A request to send an email, which has the fields of an email and a flag. -/
structure SendRequest extends Email where
  async : Bool := false

structure BatchRequest where
  emails : List (Option SendRequest) := []
  async : Bool := false

/-- The email of a request: a blank identifier is replaced and nil attachments are left out. -/
def SendRequest.email (req : SendRequest) (generatedID : String) : Email :=
  { req.toEmail with
    id := if trimSpace req.id = "" then generatedID else req.id
    attachments := (req.attachments.filterMap id).map some }

inductive Action
  | rejectNil
  | rejectInvalid (email : Email) (err : GoError)
  /-- `SendAsync` if the flag is set, and else `SendSync`. -/
  | deliver (async : Bool) (email : Email)

def action (codec : Codec) (async : Bool) : Option Email → Action
  | none => .rejectNil
  | some email =>
    match email.validate codec with
    | some err => .rejectInvalid email err
    | none => .deliver async email

end Core

end MailBaby
