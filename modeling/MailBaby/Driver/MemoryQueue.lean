import MailBaby.Driver.Memory
import MailBaby.Lib.Threads

/-!
# The memory queue under concurrent calls

`memoryProducer.Publish` and `MemoryQueue.Close` called from any number of goroutines, with a
clock. A delayed publish leaves a goroutine behind, which shares the context of its `Publish`. The
channel has room for every message and nobody receives from it, so it holds all that was ever
placed on it; an entry carries the address of the clone it points to.
-/

namespace MailBaby.MemoryQueue

open Lib

def errInvalidMessage : GoError := ⟨"queue: invalid or empty message"⟩
def errDeadlineExceeded : GoError := ⟨"context deadline exceeded"⟩

/-- The context that `Publish` works with: its caller's, or the one that `WithTimeout` derives from
it, which has a deadline. -/
structure Context where
  callerDone : Bool := false
  deadline : Option Time := none
  cancelled : Bool := false
  deriving DecidableEq

/-- `ctx.Err()`; `ctx.Done()` is closed exactly when it is not nil. -/
def Context.err (ctx : Context) (now : Time) : Option GoError :=
  if ctx.callerDone ∨ ctx.cancelled then some errCanceled
  else if ctx.deadline.any (· ≤ now) then some errDeadlineExceeded
  else none

def Context.withTimeout (ctx : Context) (now : Time) (timeout : Duration) : Context :=
  if timeout > 0 then { ctx with deadline := some (now + timeout) } else ctx

inductive Once
  | fresh
  | running
  | done
  deriving DecidableEq

structure State where
  now : Time := 0
  closed : Bool := false
  channelClosed : Bool := false
  channel : List (Nat × Message) := []
  delayedWg : Nat := 0
  closeOnce : Once := .fresh
  nextRef : Nat := 0

inductive Caller
  | entered
  | admitted
  | checking
  | sending
  | returning (err : Option GoError)
  | returned (err : Option GoError)
  deriving DecidableEq

inductive Delayed
  | absent
  | spawned
  | waiting (fires : Time)
  | checking
  | sending
  | ended (err : Option GoError)
  deriving DecidableEq

/-- One call of `Publish`; `item` is the clone at address `ref`. -/
structure Publish where
  msg : Option Message
  opts : List PublishOption
  ref : Nat
  item : Message := {}
  ctx : Context := {}
  caller : Caller := .entered
  delayed : Delayed := .absent

inductive Close
  | entered
  | marking
  | waiting
  | closingChannel
  | returned
  deriving DecidableEq

inductive Thread
  | publish (p : Publish)
  | close (phase : Close)

inductive Request
  | publish (msg : Option Message) (opts : List PublishOption)
  | close

/-- `proceed` moves the caller, `goroutine` the goroutine it left behind; `abandon` is the branch of
that goroutine's `select` in which the context is done, `giveUp` the drain timeout of `Close`. -/
inductive Action
  | proceed
  | goroutine
  | abandon
  | giveUp
  | cancel
  | tick (d : Nat)

def State.push (s : State) (p : Publish) : State :=
  { s with channel := s.channel ++ [(p.ref, p.item)] }

variable (name : String) (trace : Headers)

def stepCaller (s : State) (p : Publish) : Option (State × Publish) :=
  match p.caller, p.msg with
  | .entered, none => some (s, { p with caller := .returned (some errInvalidMessage) })
  | .entered, some _ =>
    if s.closed then some (s, { p with caller := .returned (some errQueueClosed) })
    else some (s, { p with caller := .admitted })
  | .admitted, some m =>
    let po := publishOptions p.opts
    let item := (Memory.prepare name trace m p.opts).clone
    let ctx := p.ctx.withTimeout s.now po.timeout
    if item.delay > 0 then
      some ({ s with delayedWg := s.delayedWg + 1 },
        { p with item := item, ctx := ctx, caller := .returning none, delayed := .spawned })
    else some (s, { p with item := item, ctx := ctx, caller := .checking })
  | .checking, _ =>
    match p.ctx.err s.now with
    | some err => some (s, { p with caller := .returning (some err) })
    | none => some (s, { p with caller := .sending })
  | .sending, _ =>
    if s.channelClosed then some (s, { p with caller := .returning (some errQueueClosed) })
    else some (s.push p, { p with caller := .returning none })
  -- the deferred `cancel()`
  | .returning err, _ =>
    some (s, { p with ctx.cancelled := p.ctx.deadline.isSome, caller := .returned err })
  | _, _ => none

def stepGoroutine (s : State) (p : Publish) : Option (State × Publish) :=
  match p.delayed with
  | .spawned => some (s, { p with delayed := .waiting (s.now + p.item.delay) })
  | .waiting fires => if fires ≤ s.now then some (s, { p with delayed := .checking }) else none
  | .checking =>
    match p.ctx.err s.now with
    | some err => some ({ s with delayedWg := s.delayedWg - 1 }, { p with delayed := .ended (some err) })
    | none => some (s, { p with delayed := .sending })
  | .sending =>
    if s.channelClosed then
      some ({ s with delayedWg := s.delayedWg - 1 }, { p with delayed := .ended (some errQueueClosed) })
    else some ({ s.push p with delayedWg := s.delayedWg - 1 }, { p with delayed := .ended none })
  | _ => none

def stepAbandon (s : State) (p : Publish) : Option (State × Publish) :=
  match p.delayed, p.ctx.err s.now with
  | .waiting _, some err =>
    some ({ s with delayedWg := s.delayedWg - 1 }, { p with delayed := .ended (some err) })
  | _, _ => none

def stepPublish (s : State) (p : Publish) : Action → Option (State × Publish)
  | .proceed => stepCaller name trace s p
  | .goroutine => stepGoroutine s p
  | .abandon => stepAbandon s p
  | .giveUp => none
  | .cancel => some (s, { p with ctx.callerDone := true })
  | .tick d => some ({ s with now := s.now + d }, p)

def stepClose (s : State) : Close → Action → Option (State × Close)
  | .entered, .proceed =>
    match s.closeOnce with
    | .fresh => some ({ s with closeOnce := .running }, .marking)
    | .running => none
    | .done => some (s, .returned)
  | .marking, .proceed => some ({ s with closed := true }, .waiting)
  | .waiting, .proceed => if s.delayedWg = 0 then some (s, .closingChannel) else none
  | .waiting, .giveUp => some (s, .closingChannel)
  | .closingChannel, .proceed => some ({ s with channelClosed := true, closeOnce := .done }, .returned)
  | phase, .tick d => some ({ s with now := s.now + d }, phase)
  | _, _ => none

def step (s : State) : Thread → Action → Option (State × Thread)
  | .publish p, a => (stepPublish name trace s p a).map fun r => (r.1, .publish r.2)
  | .close phase, a => (stepClose s phase a).map fun r => (r.1, .close r.2)

def request (s : State) : Request → Option (State × Thread)
  | .publish msg opts =>
    some ({ s with nextRef := s.nextRef + 1 }, .publish { msg := msg, opts := opts, ref := s.nextRef })
  | .close => some (s, .close .entered)

def program : Program State Thread Request Action where
  call := request
  step := step name trace

end MailBaby.MemoryQueue
