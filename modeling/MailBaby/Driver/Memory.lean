import MailBaby.Config
import MailBaby.World

/-!
# Memory queue

The producer's changes to a message, and the two ways of taking a message off the channel:
the consumer's per-message function and `Receive`, which install their own callbacks.
-/

namespace MailBaby.Memory

open Lib

def channelCapacity (bufferSize : Int) : Nat := if bufferSize ≤ 0 then 1024 else bufferSize.toNat

def concurrency (co : ConsumeOptions) (cfg : Option Config) : Nat :=
  if co.concurrency > 0 then co.concurrency.toNat
  else match cfg with
    | some cfg => if cfg.queue.concurrency > 0 then cfg.queue.concurrency.toNat else 1
    | none => 1

/-- The message as `Publish` leaves it; `trace` are the headers that tracing injects. -/
def prepare (name : String) (trace : Headers) (m : Message) (opts : List PublishOption) : Message :=
  let po := publishOptions opts
  { m with
    topic := publishTopic name po m
    key := if po.key ≠ "" then po.key else m.key
    delay := if po.delay > 0 then po.delay else m.delay
    headers := mergeHeaders (mergeHeaders m.headers po.headers) trace }

/-- `publishItem`: the context is checked, then the clone is sent on the channel. -/
def publishItem (m : Message) : Proc (Option GoError) := do
  match ← ctxErr with
  | some err => pure (some err)
  | none => do
    let ok ← sendMessage m.clone
    pure (if ok then none else some errQueueClosed)

def consumed (m : Message) : Message :=
  (m.setAckFunc .returnNil).setNackFunc (.requeueClone true)

def processMessage (co : ConsumeOptions) (handler : Handler) (m : Message) : Proc Unit :=
  deliver co.autoAck handler (consumed m)

/-- A message as `Receive` returns it: its requeueing does not count another attempt. -/
def received (m : Message) : Message :=
  (m.setAckFunc .returnNil).setNackFunc (.requeueClone false)

def take : Proc (Option Message) := fun _ w =>
  match w.channel with
  | [] => (.ok none, w)
  | m :: rest => (.ok (some m), { w with channel := rest })

def consumeOne (co : ConsumeOptions) (handler : Handler) : Proc Unit := do
  match ← take with
  | none => pure ()
  | some m => processMessage co handler m

/-- `Receive`, followed by what its caller does with the message. -/
def receiveOne (caller : Proc Unit) : Proc (Option GoError) := do
  match ← take with
  | none => do
    let closed ← Eff.query fun _ w => w.channelClosed
    pure (some (if closed then errQueueClosed else errTimeout))
  | some m => do
    Eff.update (World.setMsg · (received m))
    caller
    pure none

end MailBaby.Memory
