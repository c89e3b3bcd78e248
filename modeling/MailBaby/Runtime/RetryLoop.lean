import MailBaby.Lib.Int64
import MailBaby.Runtime.Engine

/-!
# The retry loop in 64-bit arithmetic

`Engine.attempts` counts down the attempts that are left and computes its sleeps exactly. The source
counts a 64-bit loop variable up to the number of attempts and computes with 64-bit durations. Both are
given here as the source has them.
-/

namespace MailBaby.Engine

open Lib

def sleepTime (base jitter : Int) : Int := wrap64 (wrap64 (base - base.tdiv 4) + jitter)

/-- At most `turns` turns of the loop of `sendWithRetry`, from the value `attempt` of its variable and
after `sent` calls of `Send`. The result is `none` if the loop goes on after them. -/
def retryLoop (e : Engine) (m : Message) (email : Email) :
    Nat → Int → Nat → Option GoError → Proc (Option (Option GoError))
  | 0, _, _, _ => pure none
  | turns + 1, attempt, sent, lastErr =>
    if attempt ≤ e.maxAttempts then do
      match ← ctxErr with
      | some err => pure (some (some err))
      | none =>
        -- an attempt that is not after the first one is not delayed
        match ← pause e.effectiveInterval (attempt - e.startAttempt m).toNat with
        | some err => pure (some (some err))
        | none =>
          match ← send sent email with
          | none => pure (some none)
          | some err => do
            Eff.update (World.count · fun s => { s with totalRetried := s.totalRetried + 1 })
            Eff.update (World.record · (.queueRetried e.queue.driver.name e.queue.name))
            retryLoop e m email turns (wrap64 (attempt + 1)) (sent + 1) (some err)
    else pure (some lastErr)

end MailBaby.Engine
