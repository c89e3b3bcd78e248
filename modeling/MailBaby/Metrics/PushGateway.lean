import MailBaby.Lib.Int64
import MailBaby.Logger

/-!
# The push loop

`PushGatewayPusher.Start` pushes at every tick. A failed push adds a wait to the tick, which doubles while the
outage lasts. Times are in nanoseconds.
-/

namespace MailBaby.Metrics

open Lib

def second : Int := 1000000000

structure PushGatewayConfig where
  url : String := ""
  interval : Int := 0

def PushGatewayConfig.pushInterval (cfg : PushGatewayConfig) : Int :=
  if cfg.interval ≤ 0 then 15 * second else cfg.interval

def maxBackoff : Int := 300 * second

def warnEveryFailures : Int := 5

structure PushLoop where
  backoff : Int := 0
  consecutiveFailures : Int := 0

structure PushWarning where
  url : String
  error : String
  consecutiveFailures : Int
  backoff : Int

def PushLoop.pushOnce (cfg : PushGatewayConfig) (s : PushLoop) (err : Option String) :
    PushLoop × Option PushWarning :=
  match err with
  | none => ({}, none)
  | some text =>
    let failures := wrap64 (s.consecutiveFailures + 1)
    let backoff := if s.backoff = 0 then cfg.pushInterval else wrap64 (s.backoff * 2)
    ({ backoff := if backoff > maxBackoff then maxBackoff else backoff, consecutiveFailures := failures },
      if failures = 1 ∨ failures.tmod warnEveryFailures = 0 then
        some ⟨Log.redactURL cfg.url, text, failures, s.backoff⟩
      else none)

/-- A turn of the loop: what it logs, and how long it waits for its timer. -/
structure PushTurn where
  warning : Option PushWarning
  wait : Int

def PushLoop.turn (cfg : PushGatewayConfig) (s : PushLoop) (err : Option String) : PushTurn :=
  let (s', warning) := s.pushOnce cfg err
  ⟨warning, if s'.backoff > 0 then s'.backoff else 0⟩

def PushLoop.turns (cfg : PushGatewayConfig) (s : PushLoop) : List (Option String) → List PushTurn
  | [] => []
  | err :: rest => s.turn cfg err :: (s.pushOnce cfg err).1.turns cfg rest

def PushGatewayConfig.turns (cfg : PushGatewayConfig) (history : List (Option String)) : List PushTurn :=
  ({} : PushLoop).turns cfg history

/-! ### What the loop is for -/

def nextFailures (k : Nat) (err : Option String) : Nat := if err.isSome then k + 1 else 0

def failures (history : List (Option String)) : Nat := history.foldl nextFailures 0

/-- The wait after `k` failures, in unbounded integers. -/
def outageWait (cfg : PushGatewayConfig) (k : Nat) : Int :=
  if k = 0 then 0 else min (cfg.pushInterval * 2 ^ (k - 1)) maxBackoff

def WarningDue (k : Nat) : Prop := k = 1 ∨ 0 < k ∧ 5 ∣ k

end MailBaby.Metrics
