import MailBaby.Lib.Threads
import MailBaby.Runtime.Engine

/-!
# Concurrent invocations of the engine

Every worker calls `processMessage` on a message of its own; the calls share the engine's counters, which
they only add to. An invocation moves in steps that change at most one of the counters, with the
middleware chain as one step. Its own world holds its message, the calls that it made and what it has
added to the counters so far.
-/

namespace MailBaby

open Lib

/-- What the steps of one invocation add to the shared counters. -/
def Stats.shift (s old new : Stats) : Stats where
  inFlight := s.inFlight + (new.inFlight - old.inFlight)
  totalReceived := s.totalReceived + (new.totalReceived - old.totalReceived)
  totalSuccess := s.totalSuccess + (new.totalSuccess - old.totalSuccess)
  totalFailed := s.totalFailed + (new.totalFailed - old.totalFailed)
  totalRetried := s.totalRetried + (new.totalRetried - old.totalRetried)
  totalDeadLetter := s.totalDeadLetter + (new.totalDeadLetter - old.totalDeadLetter)

namespace Invocation

/-- A message handed to the engine, nil or not, in surroundings in which neither the dead-letter
producer nor the error handler panics. The sender may. -/
structure Input where
  env : Env
  msg : Option Message
  publish_returns : ∃ err, env.publish = .returns err
  handler_returns : env.errorHandler = none

/-- Why an invocation fails: a nil message, an empty payload, one that is not a valid email, or an error
of the chain. -/
inductive Failure
  | absent
  | empty
  | rejected (err : GoError)
  | exhausted (err : GoError)

def Failure.err : Failure → GoError
  | absent => errInvalidPayload
  | empty => errInvalidPayload
  | rejected err => err
  | exhausted err => err

/-- Where an invocation stands: before the first counter, before the second, before the payload is
looked at, and so on to the deferred decrement. `routing`, `publishing`, `notifying` and the following
`acking` are `routeToDLQ`. -/
inductive Phase
  | entered
  | counted
  | received
  | chain (email : Email)
  | succeeding
  | failing (f : Failure)
  | routing (f : Failure)
  | publishing (f : Failure)
  | notifying (f : Failure)
  | acking (f : Failure)
  | leaving (result : Option GoError)
  | returned (result : Option GoError)

end Invocation

/-- One call of `processMessage`. Middlewares may acknowledge the message as well: `own` and `acks` are
about the steps of the engine itself. -/
structure Invocation where
  input : Invocation.Input
  phase : Invocation.Phase := .entered
  world : World
  /-- The outside calls logged by the engine's own steps. -/
  own : List Event := []
  /-- How often the engine itself called `Ack`. -/
  acks : Nat := 0

namespace Invocation

def start (i : Input) : Invocation := { input := i, world := { msg := i.msg.getD {} } }

/-- Runs `p` as a step of the engine. A panic that nothing recovers leaves no invocation behind. -/
def perform {α : Type} (t : Invocation) (p : Proc α) (next : α → Phase) : Option Invocation :=
  match p t.input.env t.world with
  | (.ok a, w) =>
    some { t with phase := next a, world := w, own := t.own ++ w.events.drop t.world.events.length }
  | (.error _, _) => none

def count (t : Invocation) (f : Stats → Stats) (next : Phase) : Option Invocation :=
  t.perform (Eff.update (World.count · f)) fun _ => next

/-- The branch that `processMessage` takes once it has counted the message. -/
def classify (codec : Codec) : Option Message → Phase
  | none => .failing .absent
  | some m =>
    if m.payload = [] then .failing .empty
    else match codec.unmarshalEmail m.payload with
      | .error err => .failing (.rejected (errInvalidPayload.wrap err))
      | .ok email =>
        match email.validate codec with
        | some err => .failing (.rejected ⟨"runtime: email validation failed: " ++ err.text⟩)
        | none => .chain email

def afterChain : Option GoError → Phase
  | some err => .failing (.exhausted err)
  | none => .succeeding

def afterFailed : Failure → Phase
  | .absent => .leaving (some errInvalidPayload)
  | .empty => .acking .empty
  | f => .routing f

/-- After the dead-letter producer has refused the message: one that can never be handled is
acknowledged all the same. -/
def afterRefused (dlqErr : GoError) : Failure → Phase
  | .exhausted _ => .leaving (some ⟨"runtime: DLQ publish failed: " ++ dlqErr.text⟩)
  | f => .acking f

def afterPublish (f : Failure) : Option GoError → Phase
  | none => .notifying f
  | some dlqErr => afterRefused dlqErr f

variable (codec : Codec) (e : Engine)

def stepChain (t : Invocation) (email : Email) : Option Invocation :=
  match buildChain e.middlewares e.sendWithRetry email t.input.env t.world with
  | (.ok r, w) => some { t with phase := afterChain r, world := w }
  | (.error _, _) => none

def stepRouting (t : Invocation) (f : Failure) : Option Invocation :=
  t.perform
    (Eff.update fun w =>
      (w.count fun s => { s with totalDeadLetter := s.totalDeadLetter + 1 }).record
        (.queueDeadLetter e.queue.driver.name e.queue.name))
    fun _ => .publishing f

def stepAck (t : Invocation) (f : Failure) : Option Invocation :=
  { t with acks := t.acks + 1 }.perform ackMessage fun _ => .leaving (some f.err)

def step (t : Invocation) : Option Invocation :=
  match t.phase with
  | .entered => t.count (fun s => { s with inFlight := s.inFlight + 1 }) .counted
  | .counted => t.count (fun s => { s with totalReceived := s.totalReceived + 1 }) .received
  | .received => t.perform (pure ()) fun _ => classify codec t.input.msg
  | .chain email => t.stepChain e email
  | .succeeding => t.count (fun s => { s with totalSuccess := s.totalSuccess + 1 }) (.leaving none)
  | .failing f => t.count (fun s => { s with totalFailed := s.totalFailed + 1 }) (afterFailed f)
  | .routing f => t.stepRouting e f
  | .publishing f => t.perform (e.publishDeadLetter f.err) (afterPublish f)
  | .notifying f => t.perform (e.notifyErrorHandler f.err) fun _ => .acking f
  | .acking f => t.stepAck f
  | .leaving r => t.count (fun s => { s with inFlight := s.inFlight - 1 }) (.returned r)
  | .returned _ => none

/-- The invocations of one engine; a step adds to the shared counters what it adds to its own. -/
def program : Program Stats Invocation Input Unit where
  call s i := some (s, start i)
  step s t _ := (t.step codec e).map fun t' => (s.shift t.world.stats t'.world.stats, t')

end Invocation

end MailBaby
