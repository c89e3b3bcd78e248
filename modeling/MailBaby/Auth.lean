import MailBaby.Lib.Header
import MailBaby.Lib.Unmarshal
import MailBaby.Queue.Message

/-!
# Authentication of API requests

The secret key that HTTP requests and gRPC calls have to carry, and the two functions that look for it
in their headers.
-/

namespace MailBaby

open Lib

structure AuthConfig where
  enabled : Bool := false
  secretKey : String := ""
  headerName : String := ""

def AuthConfig.applyDefaults (c : AuthConfig) : AuthConfig :=
  if c.headerName = "" then { c with headerName := "X-API-Key" } else c

def AuthConfig.validate (c : AuthConfig) : Option GoError :=
  if c.enabled ∧ trimSpace c.secretKey = "" then
    some ⟨"auth: secret_key cannot be empty when authentication is enabled"⟩
  else none

/-- The end of both functions, given the values of the configured header and of `X-API-Key`. -/
def headerToken (custom fallback : String) : String :=
  if custom ≠ "" then trimSpace custom else if fallback ≠ "" then trimSpace fallback else ""

namespace Handler

structure AuthErrorResponse where
  code : Nat
  error : String
  message : String
  deriving DecidableEq

/-- The next handler is called, or the request is answered. -/
inductive AuthResult
  | next
  | deny (status : Nat) (retryAfter : Option Int) (body : AuthErrorResponse)
  deriving DecidableEq

def extractToken (r : HeaderLines) (headerName : String) : String :=
  let authHeader := httpGet r "Authorization"
  let otherHeaders :=
    headerToken (if headerName ≠ "" then httpGet r headerName else "") (httpGet r "X-API-Key")
  if authHeader ≠ "" then
    match splitSpace authHeader with
    | (scheme, some token) => if equalFold scheme "Bearer" then trimSpace token else otherHeaders
    | (word, none) => if word ≠ "" then trimSpace word else otherHeaders
  else otherHeaders

def retryAfterSeconds (d : Duration) : Int := max 1 ((d + 500000000) / 1000000000)

/-- `AuthMiddleware`. The rate limiter gives no answer for a key below the limit, and else the time to
wait. -/
def authMiddleware (cfg : AuthConfig) (limiter : String → Option Duration) (r : HeaderLines) : AuthResult :=
  if !cfg.enabled then .next
  else
    let providedKey := extractToken r cfg.headerName
    if providedKey = "" ∨ providedKey ≠ cfg.secretKey then
      .deny 401 none ⟨401, "unauthorized", "invalid or missing authentication token / secret key"⟩
    else match limiter providedKey with
      | some retryAfter =>
        .deny 429 (some (retryAfterSeconds retryAfter))
          ⟨429, "rate_limited", "per-key request rate exceeded; retry after Retry-After seconds"⟩
      | none => .next

end Handler

namespace Rpc

inductive Code
  | ok
  | invalidArgument
  | unauthenticated
  | internal
  | unavailable
  deriving DecidableEq, Repr

structure Status where
  code : Code
  message : String
  deriving DecidableEq

def extractMetadataToken (md : HeaderLines) (headerName : String) : String :=
  let authorization := metadataGet md "authorization"
  if authorization ≠ "" then
    match splitSpace authorization with
    | (scheme, some token) =>
      if equalFold scheme "Bearer" then trimSpace token else trimSpace authorization
    | (_, none) => trimSpace authorization
  else
    headerToken (if headerName ≠ "" then metadataGet md (toLower headerName) else "")
      (metadataGet md "x-api-key")

/-- The error of a call; none admits it. -/
def validateMetadataAuth (md : Option HeaderLines) (cfg : AuthConfig) : Option Status :=
  match md with
  | none => some ⟨.unauthenticated, "rpc: metadata is missing"⟩
  | some md =>
    let providedKey := extractMetadataToken md cfg.headerName
    if providedKey = "" ∨ providedKey ≠ cfg.secretKey then
      some ⟨.unauthenticated, "rpc: invalid or missing authentication token / secret key"⟩
    else none

/-- The body that the unary and the stream interceptor share. -/
def authInterceptor {α : Type} (cfg : AuthConfig) (md : Option HeaderLines) (handler : α)
    (fail : Status → α) : α :=
  if !cfg.enabled then handler
  else match validateMetadataAuth md cfg with
    | some status => fail status
    | none => handler

end Rpc

end MailBaby
