import MailBaby.Auth
import MailBaby.Handler.RateLimit

/-!
# The authentication of a running server

`AuthMiddleware` makes one rate limiter, which the requests with the right key share. The other requests
are answered without it.
-/

namespace MailBaby.Handler

open Lib

structure AuthGate where
  cfg : AuthConfig
  limiter : KeyRateLimiter

def newAuthGate (cfg : AuthConfig) (ratePerKeyPerMinute : Int) : AuthGate :=
  ⟨cfg, newKeyRateLimiter ratePerKeyPerMinute⟩

structure GateRequest where
  headers : HeaderLines
  now : Time
  order : RangeOrder (Σ _ : String, KeyBucket) := .stored

namespace AuthGate

variable (sha256 : Bytes → Vector UInt8 32) (g : AuthGate) (q : GateRequest)

def providedKey : String := extractToken q.headers g.cfg.headerName

def allow (key : String) : (Bool × Duration) × KeyRateLimiter :=
  g.limiter.allow (fingerprint sha256) q.order q.now key

/-- The time to wait, if the limiter denies the request. -/
def retryAfter (key : String) : Option Duration :=
  if (g.allow sha256 q key).1.1 then none else some (g.allow sha256 q key).1.2

def authenticated : Bool :=
  g.cfg.enabled && g.providedKey q != "" && g.providedKey q == g.cfg.secretKey

def answer : AuthResult := authMiddleware g.cfg (g.retryAfter sha256 q) q.headers

def serve : AuthGate :=
  if g.authenticated q then { g with limiter := (g.allow sha256 q (g.providedKey q)).2 } else g

end AuthGate

/-- A server with the time of its last request. -/
structure GateTrace where
  gate : AuthGate
  clock : Time

/-- One request. Time does not run backwards. -/
def GateTrace.request (sha256 : Bytes → Vector UInt8 32) (s : GateTrace) (q : GateRequest) : Option GateTrace :=
  if q.now < s.clock then none else some ⟨s.gate.serve sha256 q, q.now⟩

def AuthResult.isRateLimited : AuthResult → Bool
  | .next => false
  | .deny status _ _ => status = 429

end MailBaby.Handler
