import MailBaby.Handler.Email
import MailBaby.Rpc.Server

/-!
# The entry points for sending

One type for the requests that the HTTP and the gRPC server take, and how the process serves one of
them: the answer that the client gets, if the process survives, and what was called for every email.
-/

namespace MailBaby

open Lib MailBaby.Core

/-- The parts that both servers are built from. -/
structure SendApi where
  svc : Option SendService
  codec : Codec
  toJSON : Email → Except GoError Bytes
  jsonError : Bytes → GoError
  corsOrigin : String := ""

namespace SendApi

inductive Request
  | handleSend (r : Handler.Request)
  | handleBatchSend (r : Handler.Request)
  | send (req : Option SendRequest)
  | sendBatch (req : Option BatchRequest)

inductive Answer
  | http (resp : Handler.Response)
  | rpc (results : Rpc.Server.Results Rpc.SendMailResponse)
  | rpcBatch (results : Rpc.Server.Results Rpc.BatchSendMailResponse)

def Request.overHTTP : Request → Bool
  | handleSend _ => true
  | handleBatchSend _ => true
  | send _ => false
  | sendBatch _ => false

def Request.isHandleSend : Request → Bool
  | handleSend _ => true
  | _ => false

variable (api : SendApi)

def handler : Handler.EmailHandler := ⟨api.svc, api.codec, api.toJSON, api.jsonError⟩

def server : Rpc.Server := ⟨api.svc, api.codec, api.toJSON⟩

def serveOne {α : Type} (p : SendProc α) (env : CallEnv) (answer : α → Answer) :
    Option Answer × List Trace :=
  ((p env {}).1.toOption.map answer, [(p env {}).2])

/-- The emails of a batch meet `envs` in the order of the batch, a single email meets `envs 0`. -/
def serve (envs : Nat → CallEnv) (sched : ∀ n, LockOrder n) : Request → Option Answer × List Trace
  | .handleSend r =>
    serveOne (Handler.intercept api.corsOrigin r (api.handler.handleSend r)) (envs 0) .http
  | .handleBatchSend r =>
    if Handler.preflight api.corsOrigin r then (some (.http Handler.noContent), [])
    else
      let served := api.handler.handleBatchSend r envs sched
      (served.1.map .http, served.2)
  | .send req => serveOne (api.server.send req) (envs 0) .rpc
  | .sendBatch req =>
    let served := api.server.sendBatch req envs sched
    (served.1.map .rpcBatch, served.2)

/-- What is to be done with the emails of a request; a request that is refused as a whole has none. -/
def actions (ids : Nat → String) : Request → List Action
  | .handleSend r =>
    if Handler.preflight api.corsOrigin r then []
    else match api.handler.parseSend r with
      | .error _ => []
      | .ok req =>
        [action api.codec (Handler.isAsync r req.async) (some (Handler.requestToEmail req (ids 0)))]
  | .handleBatchSend r =>
    if Handler.preflight api.corsOrigin r then []
    else match api.handler.parseBatch r with
      | .error _ => []
      | .ok req => req.emails.mapIdx fun i item => api.handler.batchAction r req item (ids i)
  | .send none => []
  | .send (some req) => [action api.codec req.async (some (Rpc.protoToEmail req (ids 0)))]
  | .sendBatch none => []
  | .sendBatch (some req) => req.emails.mapIdx fun i item => api.server.batchAction req item (ids i)

end SendApi

end MailBaby
