import MailBaby.Lib.Encoding
import MailBaby.Lib.Transition
import MailBaby.Queue.Message

/-!
# The rate limiter

`keyRateLimiter` counts the requests of each key in windows of a minute. A window starts with the first
request after the last one has ended, and the oldest window gives way when too many keys are stored.
-/

namespace MailBaby.Handler

open Lib

structure KeyBucket where
  windowStart : Time
  count : Int
  deriving DecidableEq, Repr

structure KeyRateLimiter where
  cap : Int
  window : Duration
  buckets : AList fun _ : String => KeyBucket
  maxKeys : Nat

def minute : Duration := 60 * 1000000000

def newKeyRateLimiter (perMinute : Int) : KeyRateLimiter where
  cap := if perMinute ≤ 0 then 600 else perMinute
  window := minute
  buckets := ∅
  maxKeys := 10000

/-- The digest of a key in hexadecimal digits; `sha256.Sum256` gives an array of 32 bytes. -/
def fingerprint (sha256 : Bytes → Vector UInt8 32) (raw : String) : String :=
  String.ofList (Hex.encode (sha256 (utf8 raw.toList)).toList)

namespace KeyRateLimiter

variable (r : KeyRateLimiter)

/-- A bucket takes the place of the oldest one seen so far only if it is strictly older. -/
def older (oldest : Option (Σ _ : String, KeyBucket)) (entry : Σ _ : String, KeyBucket) :
    Option (Σ _ : String, KeyBucket) :=
  match oldest with
  | none => some entry
  | some o => if entry.2.windowStart < o.2.windowStart then some entry else some o

def evictOldestLocked (order : RangeOrder (Σ _ : String, KeyBucket)) (now : Time) : KeyRateLimiter :=
  match (order.arrange r.buckets.entries).foldl older none with
  | none => r
  | some ⟨oldestFP, b⟩ =>
    if oldestFP ≠ "" ∧ (now - b.windowStart ≥ r.window ∨ r.buckets.entries.length ≥ r.maxKeys) then
      { r with buckets := r.buckets.erase oldestFP }
    else r

/-- The bucket of a window that has not ended. -/
def openBucket (fp : String) (now : Time) : Option KeyBucket :=
  (r.buckets.lookup fp).filter fun b => now - b.windowStart < r.window

def makeRoom (order : RangeOrder (Σ _ : String, KeyBucket)) (fp : String) (now : Time) : KeyRateLimiter :=
  if r.buckets.lookup fp = none ∧ r.buckets.entries.length ≥ r.maxKeys then r.evictOldestLocked order now
  else r

/-- The end of `allow`, with the bucket in force. -/
def takeFrom (fp : String) (now : Time) (b : KeyBucket) : (Bool × Duration) × KeyRateLimiter :=
  if b.count ≥ r.cap then
    ((false, b.windowStart + r.window - now), { r with buckets := r.buckets.insert fp b })
  else
    ((true, 0), { r with buckets := r.buckets.insert fp { b with count := b.count + 1 } })

def allow (fingerprint : String → String) (order : RangeOrder (Σ _ : String, KeyBucket)) (now : Time)
    (rawKey : String) : (Bool × Duration) × KeyRateLimiter :=
  if rawKey = "" then ((true, 0), r)
  else
    let fp := fingerprint rawKey
    match r.openBucket fp now with
    | some b => r.takeFrom fp now b
    | none => (r.makeRoom order fp now).takeFrom fp now ⟨now, 0⟩

end KeyRateLimiter

/-! ### Sequences of calls -/

structure LimiterCall where
  rawKey : String
  now : Time
  order : RangeOrder (Σ _ : String, KeyBucket) := .stored

/-- A limiter with the time of its last call and the calls that it allowed, the latest first. -/
structure LimiterTrace where
  limiter : KeyRateLimiter
  clock : Time
  allowed : List LimiterCall := []

namespace LimiterTrace

def call (fingerprint : String → String) (s : LimiterTrace) (c : LimiterCall) : Option LimiterTrace :=
  if c.now < s.clock then none
  else
    let answer := s.limiter.allow fingerprint c.order c.now c.rawKey
    some
      { limiter := answer.2
        clock := c.now
        allowed := if answer.1.1 then c :: s.allowed else s.allowed }

def allowedIn (s : LimiterTrace) (key : String) (t : Time) : Nat :=
  s.allowed.countP fun c => c.rawKey = key ∧ t ≤ c.now ∧ c.now < t + minute

def allowedSince (fingerprint : String → String) (s : LimiterTrace) (fp : String) (t : Time) : Nat :=
  s.allowed.countP fun c => c.rawKey ≠ "" ∧ fingerprint c.rawKey = fp ∧ t ≤ c.now

/-- The cap holds for every key in every interval of the length of a window. -/
def Capped (cap : Int) (s : LimiterTrace) : Prop :=
  ∀ key, key ≠ "" → ∀ t, (s.allowedIn key t : Int) ≤ cap

/-- The call does not start a window for its key while an allowed call of the key is less than a window
old. -/
def StartsApart (fingerprint : String → String) (s : LimiterTrace) (c : LimiterCall) : Prop :=
  c.rawKey ≠ "" → s.limiter.openBucket (fingerprint c.rawKey) c.now = none →
    ∀ d ∈ s.allowed, d.rawKey = c.rawKey → d.now + minute ≤ c.now

instance (fingerprint : String → String) (s : LimiterTrace) (c : LimiterCall) :
    Decidable (s.StartsApart fingerprint c) :=
  inferInstanceAs (Decidable (c.rawKey ≠ "" → s.limiter.openBucket (fingerprint c.rawKey) c.now = none →
    ∀ d ∈ s.allowed, d.rawKey = c.rawKey → d.now + minute ≤ c.now))

end LimiterTrace

end MailBaby.Handler
