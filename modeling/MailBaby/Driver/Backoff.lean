import MailBaby.Lib.Int64

/-!
# The backoff of receive loops

The drivers wait between failed receives. `Wait` doubles its time up to a cap and blurs it with a jitter. Times
are in nanoseconds.
-/

namespace MailBaby.Common

open Lib

def millisecond : Int := 1000000

structure Backoff where
  base : Int
  max : Int
  attempt : Nat := 0
  jittered : Bool := false

def newBackoff (base max : Int) : Backoff :=
  let base := if base ≤ 0 then 50 * millisecond else base
  { base := base, max := if max ≤ 0 ∨ max < base then 5000 * millisecond else max }

/-- A call of `Wait`: whether its context, if it is not nil, ends before the timer fires, and the draws of
`rand.Int63n`. -/
structure WaitCall where
  ctx : Option Bool
  int63n : Int → Int
  int63n_mem : ∀ k, 0 < k → 0 ≤ int63n k ∧ int63n k < k

def waitTime (base max : Int) (jittered : Bool) (n : Nat) (int63n : Int → Int) : Int :=
  let d := cappedShift max base (min n 10)
  let window := d.tdiv 5
  if jittered = false ∧ 0 < window then wrap64 (d + (int63n (window * 2) - window)) else d

/-- The backoff after the call, the time of its timer, if it sets one, and the result. -/
def Backoff.wait (b : Backoff) (c : WaitCall) : Backoff × Option Int × Bool :=
  match c.ctx with
  | none => (b, none, false)
  | some ended =>
    let n := (b.attempt + 1) % 2 ^ 32
    ({ b with attempt := n, jittered := true }, some (waitTime b.base b.max b.jittered n c.int63n), !ended)

def Backoff.waits (b : Backoff) : List WaitCall → List Int
  | [] => []
  | c :: rest => (b.wait c).2.1.toList ++ (b.wait c).1.waits rest

def Backoff.MayChoose (b : Backoff) (n : Nat) (d : Int) : Prop := ∃ calls, (b.waits calls)[n - 1]? = some d

/-- The time before the jitter, in unbounded integers. -/
def Backoff.value (b : Backoff) (n : Nat) : Int := min (b.base * 2 ^ min n 10) b.max

/-- What the `n`-th time is meant to be: within the cap, not much less than its value, and spread by a fifth
around it. -/
structure Backoff.Sound (b : Backoff) (n : Nat) : Prop where
  le_max : ∀ d, b.MayChoose n d → d ≤ b.max
  four_fifths : ∀ d, b.MayChoose n d → 4 * b.value n ≤ 5 * d
  near : ∀ d, b.MayChoose n d → b.value n - b.value n / 5 ≤ d ∧ d ≤ b.value n + b.value n / 5
  spread : 5 ≤ b.value n →
    ∃ lo hi, lo < hi ∧ lo ≤ b.value n ∧ b.value n ≤ hi ∧ ∀ d, b.MayChoose n d ↔ lo ≤ d ∧ d ≤ hi

end MailBaby.Common
