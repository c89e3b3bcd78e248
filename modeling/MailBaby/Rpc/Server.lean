import MailBaby.Auth
import MailBaby.Core.Send
import MailBaby.Lib.FanOut

/-!
# Sending over gRPC

The methods `Send` and `SendBatch` of the mail service. The counts of an answer are `int32`: what the
goroutines count is read modulo `2^32`.
-/

namespace MailBaby.Rpc

open Lib MailBaby.Core

structure SendMailResponse where
  id : String := ""
  status : String
  message : String
  sentAt : Time

structure BatchSendMailResponse where
  total : Int32
  succeeded : Int32
  failed : Int32
  results : List (Option SendMailResponse)

def Code.name : Code → String
  | ok => "OK"
  | invalidArgument => "InvalidArgument"
  | unauthenticated => "Unauthenticated"
  | internal => "Internal"
  | unavailable => "Unavailable"

/-- The text of a status as an error. -/
def Status.error (s : Status) : String := "rpc error: code = " ++ s.code.name ++ " desc = " ++ s.message

structure Server where
  svc : Option SendService
  codec : Codec
  toJSON : Email → Except GoError Bytes

def protoToEmail (req : SendRequest) (generatedID : String) : Email := req.email generatedID

def SendMailResponse.ofOutcome (out : SendOutcome) : SendMailResponse :=
  ⟨out.id, out.status, out.message, out.sentAt⟩

/-- The end of `sendSync` and `sendAsync`: an error of the service becomes part of the status. -/
def wrap (context : String) : Except GoError SendOutcome → Except Status SendMailResponse
  | .error err => .error ⟨.internal, context ++ err.text⟩
  | .ok out => .ok (.ofOutcome out)

namespace Server

variable (s : Server)

def sendSync (email : Email) : SendProc (Except Status SendMailResponse) :=
  match s.svc with
  | none => pure (.error ⟨.unavailable, "rpc: smtp sender is not initialized"⟩)
  | some svc =>
    if !svc.sender then pure (.error ⟨.unavailable, "rpc: smtp sender is not initialized"⟩)
    else do
      let out ← svc.sendSync email
      pure (wrap "rpc: delivery failed: " out)

def sendAsync (email : Email) : SendProc (Except Status SendMailResponse) :=
  match s.svc with
  | none => pure (.error ⟨.unavailable, "rpc: send service is not initialized"⟩)
  | some svc => do
    let out ← svc.sendAsync s.toJSON email
    pure (wrap "rpc: failed to enqueue email: " out)

def deliver (async : Bool) (email : Email) : SendProc (Except Status SendMailResponse) :=
  if async then s.sendAsync email else s.sendSync email

abbrev Results (ρ : Type) := Option ρ × Option Status

def returned {ρ : Type} : Except Status ρ → Results ρ
  | .error status => (none, some status)
  | .ok resp => (some resp, none)

def answer (async : Bool) (email : Email) : SendProc (Results SendMailResponse) :=
  match email.validate s.codec with
  | some err => pure (none, some ⟨.invalidArgument, "rpc: email validation failed: " ++ err.text⟩)
  | none => do
    let resp ← s.deliver async email
    pure (returned resp)

def sendBody (req : Option SendRequest) : SendProc (Results SendMailResponse) :=
  match req with
  | none => pure (none, some ⟨.invalidArgument, "rpc: send mail request is nil"⟩)
  | some req => do
    let generatedID ← Eff.query fun env _ => env.generatedID
    s.answer req.async (protoToEmail req generatedID)

/-- The deferred function recovers, and the results have no names: after a panic both are nil. -/
def send (req : Option SendRequest) : SendProc (Results SendMailResponse) :=
  Eff.recover (s.sendBody req) fun _ => (none, none)

/-! ### Batches -/

/-- The flag of the batch or of the item. -/
def batchAction (req : BatchRequest) (item : Option SendRequest) (generatedID : String) : Action :=
  action s.codec (req.async || item.any (·.async)) (item.map (protoToEmail · generatedID))

def failed (id message : String) : SendProc (Bool × SendMailResponse) :=
  Eff.query fun env _ => (false, ⟨id, "failed", message, env.sentAt⟩)

def delivered (async : Bool) (email : Email) : Except Status SendMailResponse →
    SendProc (Bool × SendMailResponse)
  | .error status =>
    failed email.id ((if async then "enqueue failed: " else "delivery failed: ") ++ status.error)
  | .ok resp => pure (true, resp)

/-- What the goroutine of an item counts and stores. -/
def answerItem : Action → SendProc (Bool × SendMailResponse)
  | .rejectNil => failed "" "nil item in batch"
  | .rejectInvalid email err => failed email.id ("validation failed: " ++ err.text)
  | .deliver async email => s.deliver async email >>= delivered async email

def batchItem (req : BatchRequest) (item : Option SendRequest) : SendProc (Bool × SendMailResponse) := do
  let generatedID ← Eff.query fun env _ => env.generatedID
  s.answerItem (s.batchAction req item generatedID)

def runItem (req : BatchRequest) (envs : Nat → CallEnv) (i : Nat) :
    Except String (Bool × SendMailResponse) × Trace :=
  s.batchItem req (req.emails.getD i none) (envs i) {}

def emptyBatch : Results BatchSendMailResponse :=
  (none, some ⟨.invalidArgument, "rpc: batch request is empty"⟩)

/-- The results, unless a panic ends the process, and what every item's goroutine called. -/
def sendBatch (req : Option BatchRequest) (envs : Nat → CallEnv) (sched : ∀ n, LockOrder n) :
    Option (Results BatchSendMailResponse) × List Trace :=
  match req with
  | none => (some emptyBatch, [])
  | some req =>
    if req.emails.length = 0 then (some emptyBatch, [])
    else
      let n := req.emails.length
      ((fanOut (fun i => (s.runItem req envs i).1) (sched n)).map fun t =>
          (some ⟨.ofNat n, .ofNat t.succeeded, .ofNat t.failed, t.results⟩, none),
        (List.range n).map fun i => (s.runItem req envs i).2)

end Server

end MailBaby.Rpc
