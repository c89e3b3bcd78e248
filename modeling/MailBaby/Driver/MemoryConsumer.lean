import MailBaby.Driver.MemoryQueue

/-!
# The memory queue with its consumers

The goroutines that `memoryConsumer.Consume` starts, next to the calls of `Publish` and `Close`. The
channel holds what was placed on it and not yet received, up to its capacity. A handler settles its
message in any way and returns; it does not panic.
-/

namespace MailBaby.MemoryConsumer

open Lib MemoryQueue

structure State extends MemoryQueue.State where
  inFlight : Int := 0

/-- Where a goroutine of `Consume` stands: at its `select`, or in `processMessage`. -/
inductive Worker
  | idle
  | received (m : Message)
  | handling (m : Message)
  /-- In the function that `Nack` calls to put a clone back on the channel. -/
  | requeueing (m : Message)
  /-- The deferred decrement of the counter is left. -/
  | finished
  | stopped

/-- `Close`, with the loop of `drain` after the queue has been marked as closed. -/
inductive Closing
  | phase (p : Close)
  | draining

inductive Thread
  | publish (p : Publish)
  | close (c : Closing)
  | worker (autoAck : Bool) (w : Worker)

inductive Request
  | publish (msg : Option Message) (opts : List PublishOption)
  | close
  | worker (autoAck : Bool)

/-- The actions of the queue, and what a handler does. For a goroutine of `Consume`, `cancel` is the
branch of its `select` in which the context is done. -/
inductive Action
  | queue (a : MemoryQueue.Action)
  | ack
  | nack (requeue : Bool)
  | finish

variable (capacity : Nat) (name : String) (trace : Headers)

def State.full (s : State) : Bool := !s.channelClosed && capacity ≤ s.channel.length

def blocked (s : State) (p : Publish) : MemoryQueue.Action → Bool
  | .proceed => p.caller = .sending && s.full capacity
  | .goroutine => p.delayed = .sending && s.full capacity
  | _ => false

def stepPublish (s : State) (p : Publish) (a : MemoryQueue.Action) : Option (State × Publish) :=
  if blocked capacity s p a then none
  else (MemoryQueue.stepPublish name trace s.toState p a).map fun r => ({ s with toState := r.1 }, r.2)

def stepClosing (s : State) : Closing → MemoryQueue.Action → Option (State × Closing)
  | .phase .marking, .proceed => some ({ s with closed := true }, .draining)
  | .draining, .proceed => if s.inFlight > 0 then none else some (s, .phase .waiting)
  | .draining, .giveUp => some (s, .phase .waiting)
  | .draining, .tick d => some ({ s with now := s.now + d }, .draining)
  | .draining, _ => none
  | .phase p, a => (stepClose s.toState p a).map fun r => ({ s with toState := r.1 }, .phase r.2)

/-- `sendMessage` of a clone that counts another attempt. -/
def State.requeue (s : State) (m : Message) : State :=
  { s with
    channel := s.channel ++ [(s.nextRef, { m.clone with attempts := m.attempts + 1 })]
    nextRef := s.nextRef + 1 }

def stepWorker (autoAck : Bool) (s : State) : Worker → Action → Option (State × Worker)
  | .idle, .queue .proceed =>
    match s.channel with
    | entry :: rest => some ({ s with channel := rest }, .received entry.2)
    | [] => if s.channelClosed then some (s, .stopped) else none
  | .idle, .queue .cancel => some (s, .stopped)
  | .received m, .queue .proceed =>
    some ({ s with inFlight := s.inFlight + 1 }, .handling { m with acknowledged := m.acknowledged || autoAck })
  | .handling m, .ack => some (s, .handling { m with acknowledged := true })
  | .handling m, .nack requeue =>
    if m.acknowledged then some (s, .handling m)
    else if requeue then some (s, .requeueing { m with acknowledged := true })
    else some (s, .handling { m with acknowledged := true })
  | .requeueing m, .queue .proceed =>
    -- a failed `Nack` leaves the message unsettled
    if s.channelClosed then some (s, .handling { m with acknowledged := false })
    else if capacity ≤ s.channel.length then none
    else some (s.requeue m, .handling m)
  | .handling _, .finish => some (s, .finished)
  | .finished, .queue .proceed => some ({ s with inFlight := s.inFlight - 1 }, .idle)
  | w, .queue (.tick d) => some ({ s with now := s.now + d }, w)
  | _, _ => none

def step (s : State) : Thread → Action → Option (State × Thread)
  | .publish p, .queue a => (stepPublish capacity name trace s p a).map fun r => (r.1, .publish r.2)
  | .close c, .queue a => (stepClosing s c a).map fun r => (r.1, .close r.2)
  | .worker autoAck w, a => (stepWorker capacity autoAck s w a).map fun r => (r.1, .worker autoAck r.2)
  | _, _ => none

def request (s : State) : Request → Option (State × Thread)
  | .publish msg opts =>
    some ({ s with nextRef := s.nextRef + 1 }, .publish { msg := msg, opts := opts, ref := s.nextRef })
  | .close => some (s, .close (.phase .entered))
  | .worker autoAck => some (s, .worker autoAck .idle)

def program : Program State Thread Request Action where
  call := request
  step := step capacity name trace

def start (buffer : List Message) : State :=
  { channel := buffer.mapIdx fun i m => (i, m), nextRef := buffer.length }

def consume (co : ConsumeOptions) (cfg : Option Config) : System State Thread where
  shared := {}
  threads := List.replicate (Memory.concurrency co cfg) (.worker co.autoAck .idle)

end MailBaby.MemoryConsumer
