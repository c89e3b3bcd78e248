import MailBaby.Lib.Eff
import MailBaby.Sender.Email

/-!
# One delivery and its surroundings

Processing one delivered message is a computation over the message, the engine's counters
and a log of the calls that left the process. `Env` scripts what happens outside: the
results of those calls, the scheduling choices and the moment at which the run context is
cancelled. The length of the log is the clock that this moment refers to.
-/

namespace MailBaby

open Lib

inductive CallResult
  | returns (err : Option GoError)
  | panics (value : String)
  deriving DecidableEq, Repr

def errCanceled : GoError := ⟨"context canceled"⟩

/-- The calls that leave the process while a delivery is handled, with their results. -/
inductive Event
  | ctxErr (err : Option GoError)
  | sleep (duration : Duration) (elapsed : Bool)
  | send (email : Email) (result : CallResult)
  | publish (letter : Message) (result : CallResult)
  | errorHandler (err : GoError) (panic : Option String)
  | ack (fn : AckFunc) (ctxDone : Bool) (err : Option GoError)
  | nack (fn : NackFunc) (requeue ctxDone : Bool) (err : Option GoError)

namespace Event

def isAck : Event → Bool
  | ack .. => true
  | _ => false

def isNack : Event → Bool
  | nack .. => true
  | _ => false

def delivered : Event → Bool
  | send _ (.returns none) => true
  | _ => false

def deadLettered : Event → Bool
  | publish _ (.returns none) => true
  | _ => false

def settled : Event → Bool
  | ack _ _ none => true
  | _ => false

def rejected : Event → Bool
  | nack _ false _ none => true
  | _ => false

end Event

/-- What the surroundings do during one delivery. `send`, `timer` and `rand` are indexed by
the attempt, `ack` and `nack` by the number of earlier calls. -/
structure Env where
  send : Nat → CallResult
  publish : CallResult := .returns none
  errorHandler : Option String := none
  ack : Nat → Option GoError := fun _ => none
  nack : Nat → Option GoError := fun _ => none
  /-- Whether the timer wins a `select` in which the context is done as well. -/
  timer : Nat → Bool := fun _ => false
  rand : Nat → Nat := fun _ => 0
  /-- The clock at which the run context is cancelled, if it is. -/
  cancelAt : Option Nat := none

def Env.done (env : Env) (clock : Nat) : Bool :=
  match env.cancelAt with
  | none => false
  | some t => decide (t ≤ clock)

structure Stats where
  inFlight : Int := 0
  totalReceived : Int := 0
  totalSuccess : Int := 0
  totalFailed : Int := 0
  totalRetried : Int := 0
  totalDeadLetter : Int := 0

/-- The metric updates made while a delivery is handled; durations are left out. -/
inductive Metric
  | queueReceived (driver topic : String)
  | queueProcessDuration (driver topic : String)
  | queueProcessed (driver topic status : String)
  | queueRetried (driver topic : String)
  | queueDeadLetter (driver topic : String)
  | emailsSent (account status : String)
  | emailDuration (account : String)
  | emailRecipients (account kind : String) (count : Nat)

/-- The delivered message, the channel of the memory queue, the counters, the metrics and the
log of outside calls. A send on the channel that blocks is seen when the channel takes it. -/
structure World where
  msg : Message := {}
  channel : List Message := []
  channelClosed : Bool := false
  stats : Stats := {}
  metrics : List Metric := []
  events : List Event := []

abbrev Proc := Eff Env World

namespace World

def clock (w : World) : Nat := w.events.length

def emit (w : World) (ev : Event) : World := { w with events := w.events ++ [ev] }

def setMsg (w : World) (m : Message) : World := { w with msg := m }

def count (w : World) (f : Stats → Stats) : World := { w with stats := f w.stats }

def recordAll (w : World) (ms : List Metric) : World := { w with metrics := w.metrics ++ ms }

def record (w : World) (m : Metric) : World := w.recordAll [m]

def push (w : World) (m : Message) : World := { w with channel := w.channel ++ [m] }

def ackCalls (w : World) : Nat := w.events.countP Event.isAck

def nackCalls (w : World) : Nat := w.events.countP Event.isNack

def sent (w : World) : Bool := w.events.any Event.delivered

def deadLettered (w : World) : Bool := w.events.any Event.deadLettered

def settled (w : World) : Bool := w.events.any Event.settled

@[simp] lemma emit_msg (w : World) (ev : Event) : (w.emit ev).msg = w.msg := rfl
@[simp] lemma emit_events (w : World) (ev : Event) : (w.emit ev).events = w.events ++ [ev] := rfl
@[simp] lemma setMsg_msg (w : World) (m : Message) : (w.setMsg m).msg = m := rfl
@[simp] lemma setMsg_events (w : World) (m : Message) : (w.setMsg m).events = w.events := rfl
@[simp] lemma count_events (w : World) (f : Stats → Stats) : (w.count f).events = w.events := rfl
@[simp] lemma record_events (w : World) (m : Metric) : (w.record m).events = w.events := rfl

end World

def call (result : Env → CallResult) (log : CallResult → Event) : Proc (Option GoError) :=
  fun env w =>
    match result env with
    | .returns err => (.ok err, w.emit (log (.returns err)))
    | .panics v => (.error v, w.emit (log (.panics v)))

def ctxErr : Proc (Option GoError) := fun env w =>
  let err := if env.done w.clock then some errCanceled else none
  (.ok err, w.emit (.ctxErr err))

/-- A `select` between a timer and `ctx.Done()`; returns the context's error if that wins. -/
def sleepOrDone (attempt : Nat) (duration : Duration) : Proc (Option GoError) := fun env w =>
  let elapsed := !env.done w.clock || env.timer attempt
  (.ok (if elapsed then none else some errCanceled), w.emit (.sleep duration elapsed))

/-- `rand.Int63n(n)`, which panics unless `n` is positive. -/
def int63n (attempt : Nat) (n : Int) : Proc Int :=
  if n ≤ 0 then Eff.panic "invalid argument to Int63n"
  else Eff.query fun env _ => (env.rand attempt : Int) % n

/-- Whether an ack callback calls the broker at all. -/
def AckFunc.callsBroker : AckFunc → Bool
  | .returnNil => false
  | .deleteMessage _ receiptHandle => decide (receiptHandle ≠ "")
  | _ => true

def Env.ackResult (env : Env) (fn : AckFunc) (n : Nat) : Option GoError :=
  if fn.callsBroker then env.ack n else none

def runAck (fn : AckFunc) : Proc (Option GoError) := fun env w =>
  let err := env.ackResult fn w.ackCalls
  (.ok err, w.emit (.ack fn (env.done w.clock) err))

/-- Whether a nack callback makes a broker call whose error it returns. -/
def NackFunc.callsBroker (requeue : Bool) : NackFunc → Bool
  | .returnNil | .requeueClone _ | .pulsarNack => false
  | .deliveryNack _ => true
  | .lPush .. => requeue
  | .natsNak jetStream => jetStream
  | .changeVisibility _ receiptHandle => decide (receiptHandle ≠ "") && requeue

def sendMessage (m : Message) : Proc Bool := fun _ w =>
  if w.channelClosed then (.ok false, w) else (.ok true, w.push m)

def requeueClone (countAttempt : Bool) (m : Message) : Proc (Option GoError) := do
  let clone := m.clone
  let requeued := if countAttempt then { clone with attempts := clone.attempts + 1 } else clone
  let ok ← sendMessage requeued
  pure (if ok then none else some errQueueClosed)

def runNack (fn : NackFunc) (requeue : Bool) (m : Message) : Proc (Option GoError) := do
  let err ← match fn, requeue with
    | .requeueClone countAttempt, true => requeueClone countAttempt m
    | _, _ => Eff.query fun env w =>
        if fn.callsBroker requeue then env.nack w.nackCalls else none
  fun env w => (.ok err, w.emit (.nack fn requeue (env.done w.clock) err))

def ackMessage : Proc (Option GoError) := do
  let m ← Eff.query fun _ w => w.msg
  let (err, m') ← m.ack runAck
  Eff.update (World.setMsg · m')
  pure err

def nackMessage (requeue : Bool) : Proc (Option GoError) := do
  let m ← Eff.query fun _ w => w.msg
  let (err, m') ← m.nack runNack requeue
  Eff.update (World.setMsg · m')
  pure err

abbrev Handler := Proc (Option GoError)

/-- The tail that the drivers' per-message functions share: acknowledge first in an automatic
mode, call the handler, then acknowledge whatever the handler left open, whether it failed
(first branch) or not (second branch). Kafka and Redis streams test the branches in the
other order. -/
def deliver (autoAck : Bool) (handler : Handler) (m : Message) : Proc Unit := do
  Eff.update (World.setMsg · m)
  if autoAck then discard ackMessage
  let err ← handler
  let m' ← Eff.query fun _ w => w.msg
  if err.isSome && !m'.isAcknowledged then discard ackMessage
  else if err.isNone && !m'.isAcknowledged then discard ackMessage
  else pure ()

end MailBaby
