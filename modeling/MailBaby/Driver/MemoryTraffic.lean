import MailBaby.Driver.MemoryQueue
import MailBaby.Lib.Channel

/-!
# The traffic of the memory queue

Calls of `Publish`, the goroutines of `Consume`, calls of `Receive`, settlements of received messages and
`Close`, in the steps in which the source takes them: a message is placed on the channel in one step and
counted in another, and a send blocks while the channel is full. A message that was received may be settled
by any goroutine, any number of times. A handler does not panic and changes no field of its message.

`placements` and `requeues` record what has happened; no step reads them.
-/

namespace MailBaby.MemoryTraffic

open Lib
open MemoryQueue (Context Once errInvalidMessage)

/-- A received message. A handler or a caller of `Receive` has it once it is `shared`. -/
structure Handout where
  ref : Nat
  msg : Message
  shared : Bool := false

structure State where
  now : Time := 0
  closed : Bool := false
  ch : Chan (Nat × Message)
  closeOnce : Once := .fresh
  inFlight : Int := 0
  totalPublished : Int := 0
  delayedWg : Int := 0
  handouts : List Handout := []
  nextRef : Nat := 0
  placements : List Nat := []
  requeues : Nat := 0

def newMemoryQueue (bufferSize : Int) : State :=
  { ch := { capacity := Memory.channelCapacity bufferSize } }

def sendMessage (ch : Chan (Nat × Message)) (entry : Nat × Message) : Go (Chan (Nat × Message) × Bool) :=
  ((ch.send entry).map fun ch' => (ch', true)).recover (ch, false)

inductive Outcome
  | returns (err : Option GoError)
  | panics
  deriving DecidableEq

/-! ### `Publish` -/

inductive Item
  | checking
  | sending
  | counting
  deriving DecidableEq

inductive Caller
  | entered
  | admitted
  | publishing (i : Item)
  | returning (r : Outcome)
  | returned (r : Outcome)
  deriving DecidableEq

/-- The goroutine of a delayed publish; `leaving` runs its deferred functions, with what `publishItem`
returned or the error of the context that ended first. -/
inductive Delayed
  | absent
  | spawned
  | waiting (fires : Time)
  | publishing (i : Item)
  | leaving (r : Outcome)
  | ended (r : Outcome)
  deriving DecidableEq

/-- One call of `Publish`; `item` is the clone at address `ref`, `trace` the headers that tracing
injects. -/
structure Publish where
  msg : Option Message
  opts : List PublishOption
  trace : Headers
  ref : Nat
  item : Message := {}
  ctx : Context := {}
  caller : Caller := .entered
  delayed : Delayed := .absent

inductive Progress
  | continues (i : Item)
  | ends (r : Outcome)

def stepItem (s : State) (p : Publish) : Item → Option (State × Progress)
  | .checking =>
    match p.ctx.err s.now with
    | some err => some (s, .ends (.returns (some err)))
    | none => some (s, .continues .sending)
  | .sending =>
    match sendMessage s.ch (p.ref, p.item) with
    | .blocks => none
    | .panics => some (s, .ends .panics)
    | .yields (ch, true) =>
      some ({ s with ch := ch, placements := s.placements ++ [p.ref] }, .continues .counting)
    | .yields (_, false) => some (s, .ends (.returns (some errQueueClosed)))
  | .counting => some ({ s with totalPublished := s.totalPublished + 1 }, .ends (.returns none))

def Publish.callerAt (p : Publish) : Progress → Publish
  | .continues i => { p with caller := .publishing i }
  | .ends r => { p with caller := .returning r }

def Publish.goroutineAt (p : Publish) : Progress → Publish
  | .continues i => { p with delayed := .publishing i }
  | .ends r => { p with delayed := .leaving r }

variable (name : String)

def stepCaller (s : State) (p : Publish) : Option (State × Publish) :=
  match p.caller, p.msg with
  | .entered, none => some (s, { p with caller := .returned (.returns (some errInvalidMessage)) })
  | .entered, some _ =>
    if s.closed then some (s, { p with caller := .returned (.returns (some errQueueClosed)) })
    else some (s, { p with caller := .admitted })
  | .admitted, some m =>
    let po := publishOptions p.opts
    let item := (Memory.prepare name p.trace m p.opts).clone
    let ctx := p.ctx.withTimeout s.now po.timeout
    if item.delay > 0 then
      some ({ s with delayedWg := s.delayedWg + 1 },
        { p with item := item, ctx := ctx, caller := .returning (.returns none), delayed := .spawned })
    else some (s, { p with item := item, ctx := ctx, caller := .publishing .checking })
  | .publishing i, _ => (stepItem s p i).map fun r => (r.1, p.callerAt r.2)
  -- the deferred `cancel()`
  | .returning r, _ =>
    some (s, { p with ctx.cancelled := p.ctx.deadline.isSome, caller := .returned r })
  | _, _ => none

def stepGoroutine (s : State) (p : Publish) : Option (State × Publish) :=
  match p.delayed with
  | .spawned => some (s, { p with delayed := .waiting (s.now + p.item.delay) })
  | .waiting fires => if fires ≤ s.now then some (s, { p with delayed := .publishing .checking }) else none
  | .publishing i => (stepItem s p i).map fun r => (r.1, p.goroutineAt r.2)
  | .leaving r => some ({ s with delayedWg := s.delayedWg - 1 }, { p with delayed := .ended r })
  | _ => none

def stepAbandon (s : State) (p : Publish) : Option (State × Publish) :=
  match p.delayed, p.ctx.err s.now with
  | .waiting _, some err => some (s, { p with delayed := .leaving (.returns (some err)) })
  | _, _ => none

/-! ### Receiving and settling -/

/-- Where a goroutine of `Consume` stands: at its `select`, or in `processMessage` with the message of a
hand-out. -/
inductive Worker
  | idle
  | received (i : Nat)
  | handling (i : Nat)
  /-- The deferred decrement of the counter is left. -/
  | finished
  | stopped
  deriving DecidableEq

inductive Receive
  | waiting (ctx : Context) (expires : Time)
  | received (i : Nat)
  | returned (r : Except GoError Nat)

/-- A call of `Ack` or `Nack`; `requeueing` is the send in the callback of `Nack`. -/
inductive Settling
  | acking
  | nacking (requeue : Bool)
  | requeueing
  | returned (r : Outcome)
  deriving DecidableEq

/-- A message is taken off the channel. -/
def State.handOut (s : State) (entry : Nat × Message) (ch : Chan (Nat × Message)) : State :=
  { s with ch := ch, handouts := s.handouts ++ [{ ref := entry.1, msg := entry.2 }] }

def State.modifyMsg (s : State) (i : Nat) (f : Message → Message) : State :=
  { s with handouts := s.handouts.modify i fun h => { h with msg := f h.msg } }

def State.share (s : State) (i : Nat) (f : Message → Message) : State :=
  { s with handouts := s.handouts.modify i fun h => { h with msg := f h.msg, shared := true } }

def acknowledge (acknowledged : Bool) (m : Message) : Message := { m with acknowledged := acknowledged }

/-- What the callback of `Nack` puts back on the channel. -/
def requeued (m : Message) : Message :=
  match m.nackFn with
  | some (.requeueClone true) => { m.clone with attempts := m.attempts + 1 }
  | _ => m.clone

/-- `proceed` is the next step of a call, and the branch of a `select` that receives; `goroutine` moves the
goroutine that a delayed publish left behind. The other branches are `abandon` (the context is done),
`expire` (the timer of `Receive`), `giveUp` (the drain timeout of `Close`) and `stop` (the context of
`Consume` is done). `cancel` ends the context of a caller, `finish` is the return of a handler. -/
inductive Action
  | proceed
  | goroutine
  | abandon
  | expire
  | giveUp
  | stop
  | finish
  | cancel
  | tick (d : Nat)
  deriving DecidableEq

def stepWorker (autoAck : Bool) (s : State) : Worker → Action → Option (State × Worker)
  | .idle, .proceed =>
    match s.ch.receive with
    | .yields (some entry, ch) => some (s.handOut entry ch, .received s.handouts.length)
    | .yields (none, _) => some (s, .stopped)
    | _ => none
  | .idle, .stop => some (s, .stopped)
  | .received i, .proceed =>
    some ({ s.share i fun m => acknowledge (m.acknowledged || autoAck) (Memory.consumed m) with
      inFlight := s.inFlight + 1 }, .handling i)
  -- `processMessage` acknowledges what its handler left unsettled
  | .handling i, .finish => some (s.modifyMsg i (acknowledge true), .finished)
  | .finished, .proceed => some ({ s with inFlight := s.inFlight - 1 }, .idle)
  | _, _ => none

def stepReceive (s : State) : Receive → Action → Option (State × Receive)
  | .waiting _ _, .proceed =>
    match s.ch.receive with
    | .yields (some entry, ch) => some (s.handOut entry ch, .received s.handouts.length)
    | .yields (none, _) => some (s, .returned (.error errQueueClosed))
    | _ => none
  | .waiting ctx _, .abandon => (ctx.err s.now).map fun err => (s, .returned (.error err))
  | .waiting _ expires, .expire => if expires ≤ s.now then some (s, .returned (.error errTimeout)) else none
  | .waiting ctx expires, .cancel => some (s, .waiting { ctx with callerDone := true } expires)
  | .received i, .proceed => some (s.share i Memory.received, .returned (.ok i))
  | _, _ => none

def stepSettling (s : State) (i : Nat) (m : Message) : Settling → Action → Option (State × Settling)
  | .acking, .proceed => some (s.modifyMsg i (acknowledge true), .returned (.returns none))
  | .nacking requeue, .proceed =>
    if m.acknowledged then some (s, .returned (.returns none))
    else some (s.modifyMsg i (acknowledge true), if requeue then .requeueing else .returned (.returns none))
  | .requeueing, .proceed =>
    match sendMessage s.ch (s.nextRef, requeued m) with
    | .blocks => none
    | .panics => some (s, .returned .panics)
    | .yields (ch, true) =>
      some ({ s with
        ch := ch
        nextRef := s.nextRef + 1
        placements := s.placements ++ [s.nextRef]
        requeues := s.requeues + 1 }, .returned (.returns none))
    -- a failed `Nack` leaves the message unsettled
    | .yields (_, false) =>
      some (s.modifyMsg i (acknowledge false), .returned (.returns (some errQueueClosed)))
  | _, _ => none

/-! ### `Close` -/

inductive Close
  | entered
  | marking
  | draining
  | waiting
  | closingChannel
  | returned (r : Outcome)
  deriving DecidableEq

def stepClose (s : State) : Close → Action → Option (State × Close)
  | .entered, .proceed =>
    match s.closeOnce with
    | .fresh => some ({ s with closeOnce := .running }, .marking)
    | .running => none
    | .done => some (s, .returned (.returns none))
  | .marking, .proceed => some ({ s with closed := true }, .draining)
  | .draining, .proceed => if s.inFlight > 0 then none else some (s, .waiting)
  | .draining, .giveUp => some (s, .waiting)
  | .waiting, .proceed => if s.delayedWg = 0 then some (s, .closingChannel) else none
  | .waiting, .giveUp => some (s, .closingChannel)
  | .closingChannel, .proceed =>
    match s.ch.close with
    | .yields ch => some ({ s with ch := ch, closeOnce := .done }, .returned (.returns none))
    | _ => some ({ s with closeOnce := .done }, .returned .panics)
  | _, _ => none

/-! ### The queue under concurrent calls -/

inductive Thread
  | publish (p : Publish)
  | worker (autoAck : Bool) (w : Worker)
  | receive (r : Receive)
  | settle (i : Nat) (k : Settling)
  | close (c : Close)

inductive Request
  | publish (msg : Option Message) (opts : List PublishOption) (trace : Headers)
  | worker (autoAck : Bool)
  | receive (timeout : Duration)
  | ack (i : Nat)
  | nack (i : Nat) (requeue : Bool)
  | close

def stepPublish (s : State) (p : Publish) : Action → Option (State × Publish)
  | .proceed => stepCaller name s p
  | .goroutine => stepGoroutine s p
  | .abandon => stepAbandon s p
  | .cancel => some (s, { p with ctx.callerDone := true })
  | _ => none

def stepThread (s : State) (a : Action) : Thread → Option (State × Thread)
  | .publish p => (stepPublish name s p a).map fun r => (r.1, .publish r.2)
  | .worker autoAck w => (stepWorker autoAck s w a).map fun r => (r.1, .worker autoAck r.2)
  | .receive r => (stepReceive s r a).map fun r => (r.1, .receive r.2)
  | .settle i k =>
    s.handouts[i]?.bind fun h => (stepSettling s i h.msg k a).map fun r => (r.1, .settle i r.2)
  | .close c => (stepClose s c a).map fun r => (r.1, .close r.2)

def step (s : State) (l : Thread) : Action → Option (State × Thread)
  | .tick d => some ({ s with now := s.now + d }, l)
  | a => stepThread name s a l

/-- A settlement of a message that somebody has. -/
def State.settlement (s : State) (i : Nat) (k : Settling) : Option (State × Thread) :=
  if s.handouts[i]?.any Handout.shared then some (s, .settle i k) else none

def request (s : State) : Request → Option (State × Thread)
  | .publish msg opts trace =>
    some ({ s with nextRef := s.nextRef + 1 },
      .publish { msg := msg, opts := opts, trace := trace, ref := s.nextRef })
  | .worker autoAck => some (s, .worker autoAck .idle)
  | .receive timeout =>
    some (s, .receive (.waiting {} (s.now + if timeout > 0 then timeout else 5 * 1000000000)))
  | .ack i => s.settlement i .acking
  | .nack i requeue => s.settlement i (.nacking requeue)
  | .close => some (s, .close .entered)

def program : Program State Thread Request Action where
  call := request
  step := step name

end MailBaby.MemoryTraffic
