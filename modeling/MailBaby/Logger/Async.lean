import MailBaby.Lib.Encoding
import MailBaby.Lib.Transition
import MailBaby.Logger

/-!
# The asynchronous log writer

One goroutine logs and flushes, call after call, while the worker of `AsyncWriter` takes the records out of
the channel and writes them in batches. A step of either is one access to what they share.
-/

namespace MailBaby.Log

open Lib

/-! ### Calls -/

/-- A call of `Entry.log`, with what it finds outside. -/
structure LogCall where
  env : LogEnv
  lvl : Level
  msg : String
  fields : Fields := ∅
  order : List String := []

inductive Call
  | log (c : LogCall)
  | sync

/-- A logger as `Init` makes it; the asynchronous writer with its buffer size, if there is one. -/
structure Setup where
  cfg : LogConfig := {}
  level : Level := .trace
  bufferSize : Option Int

def Setup.logger (u : Setup) : Logger := { cfg := u.cfg, level := u.level }

def Setup.result (u : Setup) (c : LogCall) : LogResult := log (some u.logger) c.env c.lvl c.msg c.fields c.order

def Call.recorded (u : Setup) : Call → Bool
  | .log c => u.level.rank ≤ c.lvl.rank
  | .sync => false

def Call.exits (u : Setup) : Call → Bool
  | .log c => u.level.rank ≤ c.lvl.rank && c.lvl = .fatal
  | .sync => false

/-- The capacity of the channel that `NewAsyncWriter` makes. -/
def channelSize (bufferSize : Int) : Nat := if bufferSize ≤ 0 then 4096 else bufferSize.toNat

def flushLimit : Nat := 16384

/-! ### The state -/

/-- Where the goroutine of the calls is. -/
inductive Caller
  | idle
  | writing (data : Bytes) (ending : Ending)
  /-- `Write` has seen that the writer is not closed. -/
  | sending (data : Bytes) (ending : Ending)
  /-- The channel was full. -/
  | direct (data : Bytes) (ending : Ending)
  | leaving (ending : Ending)
  | stopping
  | waiting
  /-- A call of `Sync` has returned. -/
  | synced
  | exited
  deriving DecidableEq

inductive Phase
  | running
  | flushing
  | draining
  | flushingDrained
  | finishing
  | done
  deriving DecidableEq

/-- The writer and what was written; besides, the records that were logged and those that `Write` has
refused, and the calls that were and those that will be made. -/
structure State where
  channel : List Bytes := []
  closed : Bool := false
  stop : Bool := false
  phase : Phase := .running
  batch : List Bytes := []
  written : List Bytes := []
  caller : Caller := .idle
  logged : List Bytes := []
  refused : List Bytes := []
  past : List Call := []
  remaining : List Call

/-! ### Steps -/

namespace State

variable (u : Setup) (s : State)

def begin (c : Call) (rest : List Call) : State :=
  let s := { s with past := s.past ++ [c], remaining := rest }
  match c with
  | .log c =>
    match (u.result c).written with
    | none => { s with caller := .idle }
    | some line => { s with caller := .writing (utf8 line) (u.result c).ending, logged := s.logged ++ [utf8 line] }
  | .sync =>
    if u.bufferSize = none ∨ s.closed then { s with caller := .synced }
    else { s with closed := true, caller := .stopping }

def next : Option State :=
  match s.remaining with
  | [] => none
  | c :: rest => some (s.begin u c rest)

def write (data : Bytes) (ending : Ending) : State :=
  if u.bufferSize = none then { s with written := s.written ++ [data], caller := .leaving ending }
  else if s.closed then { s with refused := s.refused ++ [data], caller := .leaving ending }
  else { s with caller := .sending data ending }

def send (data : Bytes) (ending : Ending) : State :=
  if s.channel.length < channelSize (u.bufferSize.getD 0) then
    { s with channel := s.channel ++ [data], caller := .leaving ending }
  else { s with caller := .direct data ending }

/-- The end of `log`. A panic is left to those that called it. -/
def leave (ending : Ending) : State :=
  match ending with
  | .exits _ => { s with caller := .exited }
  | _ => { s with caller := .idle }

def stepCaller : Option State :=
  match s.caller with
  | .idle => s.next u
  | .synced => s.next u
  | .writing data ending => some (s.write u data ending)
  | .sending data ending => some (s.send u data ending)
  | .direct data ending => some { s with written := s.written ++ [data], caller := .leaving ending }
  | .leaving ending => some (s.leave ending)
  | .stopping => some { s with stop := true, caller := .waiting }
  | .waiting => if s.phase = .done then some { s with caller := .synced } else none
  | .exited => none

def receive (full other : Phase) : Option State :=
  match s.channel with
  | [] => none
  | data :: rest =>
    some
      { s with
        channel := rest
        batch := s.batch ++ [data]
        phase := if flushLimit < (s.batch ++ [data]).flatten.length then full else other }

def flush (phase : Phase) : State := { s with written := s.written ++ s.batch, batch := [], phase := phase }

end State

/-- A step of the calls or one of the worker: it takes a record, its ticker ticks, it learns that it has to
stop, it flushes, or it finds the channel empty. -/
inductive Action
  | caller
  | receive
  | tick
  | stop
  | flush
  | empty
  deriving DecidableEq

def State.stepWorker (s : State) : Action → Option State
  | .caller => none
  | .receive =>
    match s.phase with
    | .running => s.receive .flushing .running
    | .draining => s.receive .flushingDrained .draining
    | _ => none
  | .tick => if s.phase = .running then some { s with phase := .flushing } else none
  | .stop => if s.phase = .running ∧ s.stop then some { s with phase := .draining } else none
  | .flush =>
    match s.phase with
    | .flushing => some (s.flush .running)
    | .flushingDrained => some (s.flush .draining)
    | .finishing => some (s.flush .done)
    | _ => none
  | .empty => if s.phase = .draining ∧ s.channel = [] then some { s with phase := .finishing } else none

/-- There is a worker only with an asynchronous writer, and nothing happens once the process has ended. -/
def State.step (u : Setup) (s : State) (a : Action) : Option State :=
  match a with
  | .caller => s.stepCaller u
  | a => if u.bufferSize = none ∨ s.caller = .exited then none else s.stepWorker a

def State.start (calls : List Call) : State := { remaining := calls }

def State.AtFlushPoint (s : State) : Prop := s.caller = .synced ∨ s.caller = .exited

/-- Whatever the schedule, at every flush point all records have been written. -/
def FlushPointsFlush (u : Setup) (calls : List Call) : Prop :=
  ∀ schedule s, run (State.step u) (State.start calls) schedule = some s → s.AtFlushPoint →
    s.logged.Perm s.written

end MailBaby.Log
