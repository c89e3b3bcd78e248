import Mathlib.Algebra.Group.Int.Defs
import Mathlib.Algebra.Group.Nat.Defs
import MailBaby.Queue.Registry
import MailBaby.World

/-!
# The engine

The runtime engine: its construction, the middleware chain and the pipeline that handles
one message. Log lines and trace spans are left out.
-/

namespace MailBaby

open Lib

def errInvalidPayload : GoError := ⟨"runtime: invalid email payload JSON"⟩

def second : Duration := 1000000000

def defaultRetryInterval : Duration := 5 * second

def maxBackoff : Duration := 300 * second

/-- The handler of a decoded email; the message it came with is the delivered one. -/
abbrev ProcessFunc := Email → Proc (Option GoError)

abbrev Middleware := ProcessFunc → ProcessFunc

def recoveryMiddleware : Middleware := fun next email =>
  Eff.recover (next email) fun v => some ⟨"runtime panic: " ++ v⟩

def tracingMiddleware : Middleware := fun next email => next email

def Email.accountLabel (e : Email) : String := if e.account = "" then "default" else e.account

def outcomeMetrics (driver topic : String) (email : Email) : Option GoError → List Metric
  | some _ =>
    [.queueProcessDuration driver topic, .queueProcessed driver topic "failed",
      .emailsSent email.accountLabel "failed"]
  | none =>
    [.queueProcessDuration driver topic, .queueProcessed driver topic "success",
      .emailsSent email.accountLabel "success", .emailDuration email.accountLabel,
      .emailRecipients email.accountLabel "to" email.toAddrs.length,
      .emailRecipients email.accountLabel "cc" email.cc.length,
      .emailRecipients email.accountLabel "bcc" email.bcc.length]

def metricsMiddleware (driver topic : String) : Middleware := fun next email => do
  Eff.update (World.record · (.queueReceived driver topic))
  let err ← next email
  Eff.update (World.recordAll · (outcomeMetrics driver topic email err))
  pure err

/-- Logging is not modelled; the stage passes everything through. -/
def loggingMiddleware : Middleware := fun next email => next email

/-- The first middleware of the list is the outermost stage. -/
def buildChain (middlewares : List Middleware) (final : ProcessFunc) : ProcessFunc :=
  middlewares.foldr (fun mw chain => mw chain) final

def builtinMiddlewares (q : Queue) : List Middleware :=
  [recoveryMiddleware, tracingMiddleware, metricsMiddleware q.driver.name q.name,
    loggingMiddleware]

/-- The engine. A producer is identified with the queue that issued it, and of the error
handler only its presence is recorded: what it does is up to the environment. -/
structure Engine where
  queue : Queue
  cfg : Option Config
  dlqProducer : Option Queue := none
  dlqTopic : String := ""
  concurrency : Int
  maxRetries : Int
  retryInterval : Duration
  shutdownTimeout : Duration
  middlewares : List Middleware
  errorHandler : Bool := false

inductive EngineOption
  | withConcurrency (workers : Int)
  | withMiddlewares (mws : List Middleware)
  | withErrorHandler
  | withDLQ (dlqProducer : Queue) (dlqTopic : String)
  | withShutdownTimeout (timeout : Duration)
  | withMaxRetries (retries : Int)
  | withRetryInterval (interval : Duration)

def EngineOption.apply (e : Engine) : EngineOption → Engine
  | .withConcurrency workers => if workers > 0 then { e with concurrency := workers } else e
  | .withMiddlewares mws => { e with middlewares := e.middlewares ++ mws }
  | .withErrorHandler => { e with errorHandler := true }
  | .withDLQ dlqProducer dlqTopic => { e with dlqProducer := some dlqProducer, dlqTopic := dlqTopic }
  | .withShutdownTimeout timeout => if timeout > 0 then { e with shutdownTimeout := timeout } else e
  | .withMaxRetries retries => if retries ≥ 0 then { e with maxRetries := retries } else e
  | .withRetryInterval interval => if interval > 0 then { e with retryInterval := interval } else e

namespace Engine

/-- `runtime.New` for a non-nil queue and sender; `cfg` may be nil. -/
def new (q : Queue) (cfg : Option Config) (opts : List EngineOption) : Engine :=
  opts.foldl EngineOption.apply
    { queue := q
      cfg := cfg
      concurrency := match cfg with
        | some c => if c.queue.concurrency > 0 then c.queue.concurrency else 10
        | none => 10
      maxRetries := match cfg with
        | some c => if c.queue.maxRetries ≥ 0 then c.queue.maxRetries else 3
        | none => 3
      retryInterval := match cfg with
        | some c => if c.queue.retryInterval > 0 then c.queue.retryInterval else defaultRetryInterval
        | none => defaultRetryInterval
      shutdownTimeout := match cfg with
        | some c => if c.app.shutdownTimeout > 0 then c.app.shutdownTimeout else 10 * second
        | none => 10 * second
      middlewares := builtinMiddlewares q }

def consumeOptions (e : Engine) : ConsumeOptions :=
  { concurrency := e.concurrency
    batchSize := match e.cfg with
      | some c => if c.queue.batchSize > 0 then c.queue.batchSize else 0
      | none => 0 }

/-! ### Sending with retries -/

def maxAttempts (e : Engine) : Int := if e.maxRetries < 1 then 1 else e.maxRetries

def startAttempt (e : Engine) (m : Message) : Int :=
  let start := if m.attempts > 1 then m.attempts else 1
  if start > e.maxAttempts then e.maxAttempts else start

def effectiveInterval (e : Engine) : Duration :=
  if e.retryInterval ≤ 0 then defaultRetryInterval else e.retryInterval

def budget (e : Engine) (m : Message) : Nat := (e.maxAttempts - e.startAttempt m + 1).toNat

/-- The backoff before the retry with index `k`; the shift is one of 64-bit integers. -/
def backoff (interval : Duration) (k : Nat) : Int :=
  let shifted := Int.bmod (interval * 2 ^ k) (2 ^ 64)
  if shifted ≤ 0 ∨ shifted > maxBackoff then maxBackoff else shifted

def pause (interval : Duration) : Nat → Proc (Option GoError)
  | 0 => pure none
  | k + 1 => do
    let base := backoff interval k
    let jitter ← int63n (k + 1) (base.tdiv 2)
    sleepOrDone (k + 1) (base - base.tdiv 4 + jitter)

def send (i : Nat) (email : Email) : Proc (Option GoError) :=
  call (fun env => env.send i) (Event.send email)

/-- The retry loop with `n` attempts left, of which the next has index `i`. -/
def attempts (e : Engine) (email : Email) : Nat → Nat → Option GoError → Proc (Option GoError)
  | 0, _, lastErr => pure lastErr
  | n + 1, i, _ => do
    match ← ctxErr with
    | some err => pure (some err)
    | none =>
      match ← pause e.effectiveInterval i with
      | some err => pure (some err)
      | none =>
        match ← send i email with
        | none => pure none
        | some lastErr => do
          Eff.update (World.count · fun s => { s with totalRetried := s.totalRetried + 1 })
          Eff.update (World.record · (.queueRetried e.queue.driver.name e.queue.name))
          attempts e email n (i + 1) (some lastErr)

def sendWithRetry (e : Engine) : ProcessFunc := fun email => do
  let m ← Eff.query fun _ w => w.msg
  attempts e email (e.budget m) 0 none

/-! ### Dead letters -/

def deadLetter (e : Engine) (m : Message) (err : GoError) : Message :=
  { id := m.id
    payload := m.payload
    topic := e.dlqTopic
    headers := m.headers.insert "X-DLQ-Error" err.text
    timestamp := m.timestamp
    attempts := m.attempts }

def publishDeadLetter (e : Engine) (err : GoError) : Proc (Option GoError) :=
  match e.dlqProducer with
  | none => pure none
  | some _ => do
    let m ← Eff.query fun _ w => w.msg
    call Env.publish (Event.publish (e.deadLetter m err))

/-- Calls the error handler if one is set; it only observes, but it may panic. -/
def notifyErrorHandler (e : Engine) (err : GoError) : Proc Unit := fun env w =>
  if e.errorHandler then
    match env.errorHandler with
    | none => (.ok (), w.emit (.errorHandler err none))
    | some v => (.error v, w.emit (.errorHandler err (some v)))
  else (.ok (), w)

def routeToDLQ (e : Engine) (err : GoError) : Proc (Option GoError) := do
  Eff.update (World.count · fun s => { s with totalDeadLetter := s.totalDeadLetter + 1 })
  Eff.update (World.record · (.queueDeadLetter e.queue.driver.name e.queue.name))
  match ← e.publishDeadLetter err with
  | some dlqErr => pure (some ⟨"runtime: DLQ publish failed: " ++ dlqErr.text⟩)
  | none => do
    e.notifyErrorHandler err
    discard ackMessage
    pure none

/-! ### The pipeline -/

def countFailed : Proc Unit :=
  Eff.update (World.count · fun s => { s with totalFailed := s.totalFailed + 1 })

/-- A message that can never be handled: dead-lettered, or acknowledged if that fails. -/
def reject (e : Engine) (err : GoError) : Proc (Option GoError) := do
  countFailed
  match ← e.routeToDLQ err with
  | some _ => discard ackMessage
  | none => pure ()
  pure (some err)

def processEmail (e : Engine) (email : Email) : Proc (Option GoError) := do
  match ← buildChain e.middlewares e.sendWithRetry email with
  | some err => do
    countFailed
    match ← e.routeToDLQ err with
    | some dlqErr => pure (some dlqErr)
    | none => pure (some err)
  | none => do
    Eff.update (World.count · fun s => { s with totalSuccess := s.totalSuccess + 1 })
    pure none

def handlePayload (codec : Codec) (e : Engine) : Proc (Option GoError) := do
  let m ← Eff.query fun _ w => w.msg
  if m.payload = [] then do
    countFailed
    discard ackMessage
    pure (some errInvalidPayload)
  else match codec.unmarshalEmail m.payload with
    | .error err => e.reject (errInvalidPayload.wrap err)
    | .ok email =>
      match email.validate codec with
      | some err => e.reject ⟨"runtime: email validation failed: " ++ err.text⟩
      | none => e.processEmail email

/-- `Engine.processMessage`; the in-flight counter is restored by a deferred update. -/
def processMessage (codec : Codec) (e : Engine) : Proc (Option GoError) :=
  Eff.ensure
    (do
      Eff.update (World.count · fun s =>
        { s with inFlight := s.inFlight + 1, totalReceived := s.totalReceived + 1 })
      handlePayload codec e)
    (World.count · fun s => { s with inFlight := s.inFlight - 1 })

end Engine

end MailBaby
