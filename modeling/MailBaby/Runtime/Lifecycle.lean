import MailBaby.Lib.Threads
import MailBaby.Queue.Message

/-!
# Starting and stopping the engine

`Engine.Start`, `Engine.Stop` and the consumer loops that `Start` launches, cut at every access to
the state word, to `cancelFunc` and to the wait group. Calls are numbered in the order in which
they are made, and a loop carries the number of its `Start`. What `Consume` does with messages is
left to the pipeline: here it runs until it returns, at any moment.
-/

namespace MailBaby.Lifecycle

open Lib

inductive EngineState
  | stopped
  | starting
  | running
  | stopping
  deriving DecidableEq, Repr

def errEngineAlreadyRunning : GoError := ⟨"runtime: engine is already running"⟩
def errEngineNotRunning : GoError := ⟨"runtime: engine is not running"⟩

/-- The fields of the engine that `Start` and `Stop` share. `cancelFunc` names the `Start` whose
context it cancels, `cancelled` the contexts cancelled so far. -/
structure Shared where
  state : EngineState := .stopped
  cancelFunc : Option Nat := none
  wg : Nat := 0
  cancelled : List Nat := []
  calls : Nat := 0
  lastStop : Nat := 0

def Shared.isRunning (s : Shared) : Bool := s.state = .running

/-- `CheckHealth`; `ping` is the answer of the queue. -/
def Shared.checkHealth (s : Shared) (ping : Option GoError) : Option GoError :=
  if s.isRunning then ping.map fun err => ⟨"queue broker unreachable: " ++ err.text⟩
  else some errEngineNotRunning

/-- Where a call stands. The thread of a `Start` goes on as the loop it launched, which is `live`
until `Consume` returns. `waiting` has a waiter on the wait group, which may have been released. -/
inductive Thread
  | start (n : Nat)
  | obtaining (n : Nat)
  | rollingBack (n : Nat) (err : GoError)
  | settingCancel (n : Nat)
  | storingRunning (n : Nat)
  | adding (n : Nat)
  | launching (n : Nat)
  | live (n : Nat)
  | exiting (n : Nat)
  | finishing (n : Nat)
  | ended (n : Nat)
  | startFailed (n : Nat) (err : GoError)
  | stop (n : Nat)
  | loaded (n : Nat) (current : EngineState)
  | cancelling (n : Nat)
  | waiting (n : Nat) (released : Bool)
  | storingStopped (n : Nat) (err : Option GoError)
  | stopReturned (n : Nat) (err : Option GoError)
  deriving DecidableEq, Repr

inductive Request
  | start
  | stop
  deriving DecidableEq, Repr

/-- `obtain` is the result of `queue.Consumer()`, `exit` the return of `Consume`, `release` the end
of the waiter's `Wait`, and `expire` the end of the context that `Stop` was given. -/
inductive Action
  | proceed
  | obtain (err : Option GoError)
  | exit
  | release
  | expire (err : GoError)
  deriving DecidableEq, Repr

def stepStart (s : Shared) : Thread → Action → Option (Shared × Thread)
  | .start n, .proceed =>
    if s.state = .stopped then some ({ s with state := .starting }, .obtaining n)
    else some (s, .startFailed n errEngineAlreadyRunning)
  | .obtaining n, .obtain none => some (s, .settingCancel n)
  | .obtaining n, .obtain (some err) => some (s, .rollingBack n err)
  | .rollingBack n err, .proceed =>
    some ({ s with state := .stopped },
      .startFailed n ⟨"runtime: failed to obtain consumer from queue: " ++ err.text⟩)
  | .settingCancel n, .proceed => some ({ s with cancelFunc := some n }, .storingRunning n)
  | .storingRunning n, .proceed => some ({ s with state := .running }, .adding n)
  | .adding n, .proceed => some ({ s with wg := s.wg + 1 }, .launching n)
  | .launching n, .proceed => some (s, .live n)
  | _, _ => none

def stepLoop (s : Shared) : Thread → Action → Option (Shared × Thread)
  | .live n, .exit => some (s, .exiting n)
  | .exiting n, .proceed => some ({ s with state := .stopped }, .finishing n)
  | .finishing n, .proceed => some ({ s with wg := s.wg - 1 }, .ended n)
  | _, _ => none

def stepStop (s : Shared) : Thread → Action → Option (Shared × Thread)
  | .stop k, .proceed =>
    if s.state = .stopped then some (s, .stopReturned k none) else some (s, .loaded k s.state)
  | .loaded k current, .proceed =>
    if s.state = current then some ({ s with state := .stopping }, .cancelling k)
    else some (s, .stop k)
  | .cancelling k, .proceed =>
    some ({ s with cancelled := s.cancelFunc.toList ++ s.cancelled }, .waiting k false)
  | .waiting k false, .release => if s.wg = 0 then some (s, .waiting k true) else none
  | .waiting k true, .proceed => some (s, .storingStopped k none)
  | .waiting k _, .expire err => some (s, .storingStopped k (some err))
  | .storingStopped k err, .proceed => some ({ s with state := .stopped }, .stopReturned k err)
  | _, _ => none

/-- At most one of the three applies to a call. -/
def step (s : Shared) (l : Thread) (a : Action) : Option (Shared × Thread) :=
  stepStart s l a <|> stepLoop s l a <|> stepStop s l a

def request (s : Shared) : Request → Option (Shared × Thread)
  | .start => some ({ s with calls := s.calls + 1 }, .start (s.calls + 1))
  | .stop => some ({ s with calls := s.calls + 1, lastStop := s.calls + 1 }, .stop (s.calls + 1))

def program : Program Shared Thread Request Action where
  call := request
  step := step

end MailBaby.Lifecycle
