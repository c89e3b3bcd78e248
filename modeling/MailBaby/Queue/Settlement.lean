import MailBaby.Lib.Threads
import MailBaby.Queue.Message

/-!
# Concurrent settlement of one message

`Ack` and `Nack` when several goroutines call them on the same message. A call is cut where it
gives up the message lock: the check that sets the flag, the start and the end of the callback,
and the lock section that takes the flag back after a failure.
-/

namespace MailBaby.Settlement

open Lib

inductive Kind
  | ack
  | nack (requeue : Bool)
  deriving DecidableEq, Repr

/-- Where a call stands. `flagged` has released the lock but not yet called back, and `failed`
has yet to take the flag back. -/
inductive Call
  | entered (kind : Kind)
  | flagged (kind : Kind)
  | running (kind : Kind)
  | failed (err : GoError)
  | returned (err : Option GoError)
  deriving DecidableEq, Repr

namespace Call

def isRunning : Call → Bool
  | running _ => true
  | _ => false

def busy : Call → Bool
  | flagged _ => true
  | running _ => true
  | failed _ => true
  | _ => false

def done : Call → Bool
  | returned _ => true
  | _ => false

end Call

inductive CallbackEvent
  | started (kind : Kind)
  | finished (err : Option GoError)
  deriving DecidableEq, Repr

/-- The message and the callback runs so far. -/
structure Shared where
  msg : Message
  log : List CallbackEvent := []

inductive Action
  | lock
  | invoke
  | finish (err : Option GoError)
  | rollback
  deriving DecidableEq, Repr

def unsupported (m : Message) : Kind → Option GoError
  | .ack => if m.ackFn.isNone then some errAckNotSupported else none
  | .nack _ => if m.nackFn.isNone then some errNackNotSupported else none

def step (s : Shared) : Call → Action → Option (Shared × Call)
  | .entered kind, .lock =>
    if s.msg.acknowledged then some (s, .returned none)
    else match unsupported s.msg kind with
      | some err => some (s, .returned (some err))
      | none => some ({ s with msg := { s.msg with acknowledged := true } }, .flagged kind)
  | .flagged kind, .invoke => some ({ s with log := s.log ++ [.started kind] }, .running kind)
  | .running _, .finish none => some ({ s with log := s.log ++ [.finished none] }, .returned none)
  | .running _, .finish (some err) =>
    some ({ s with log := s.log ++ [.finished (some err)] }, .failed err)
  | .failed err, .rollback =>
    some ({ s with msg := { s.msg with acknowledged := false } }, .returned (some err))
  | _, _ => none

/-- Goroutines may call `Ack` and `Nack` at any time, a callback included. -/
def program : Program Shared Call Kind Action where
  call s kind := some (s, .entered kind)
  step := step

/-- The call as one piece, with a callback that returns `result`. -/
def alone (kind : Kind) (result : Option GoError) (s : Shared) : Option GoError × Shared :=
  let callback : StateM (List CallbackEvent) (Option GoError) := do
    modify (· ++ [.started kind, .finished result])
    pure result
  let ((err, msg), log) := match kind with
    | .ack => (s.msg.ack fun _ => callback).run s.log
    | .nack requeue => (s.msg.nack (fun _ _ _ => callback) requeue).run s.log
  (err, ⟨msg, log⟩)

end MailBaby.Settlement
