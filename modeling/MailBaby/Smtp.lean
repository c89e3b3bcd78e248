import Mathlib.Data.List.AList
import MailBaby.Lib.Maps
import MailBaby.Lib.Text
import MailBaby.Lib.Unmarshal
import MailBaby.Sender.Pool

/-!
# SMTP accounts

The configuration of the accounts, their defaults, their validation and their lookup by name. Ranges
over the map of accounts take their order as a parameter, and `mail.ParseAddress`, reduced to the bare
address, is a parameter too.
-/

namespace MailBaby.Smtp

open Lib

def defaultAccountName : String := "default"

def errDefaultAccountRequired : GoError := ⟨"smtp: 'default' account is required"⟩

def errAccountNotFound : GoError := ⟨"smtp: account not found"⟩

/-- Sizes are in bytes. -/
structure SmtpRateLimitConfig where
  emailsPerSecond : Int := 0
  maxRecipientsPerEmail : Int := 0
  emailSizeLimit : Int := 0

/-- The configuration of one account; `sender` is the field `From`. -/
structure SmtpAccountConfig where
  host : String := ""
  port : Int := 0
  username : String := ""
  password : String := ""
  sender : String := ""
  fromName : String := ""
  replyTo : String := ""
  encryption : String := ""
  insecureSkipVerify : Bool := false
  heloHostname : String := ""
  authType : String := ""
  connectTimeout : Duration := 0
  sendTimeout : Duration := 0
  keepAlive : Duration := 0
  pool : Pool.SmtpPoolConfig := {}
  rateLimit : SmtpRateLimitConfig := {}

def second : Duration := 1000000000

namespace SmtpAccountConfig

/-- A value that is not positive is replaced. -/
def orDefault (v default : Int) : Int := if v ≤ 0 then default else v

def applyDefaults (a : SmtpAccountConfig) : SmtpAccountConfig :=
  { a with
    port := orDefault a.port 587
    encryption := if a.encryption = "" then "Auto" else a.encryption
    authType := if a.authType = "" then "Auto" else a.authType
    connectTimeout := orDefault a.connectTimeout (10 * second)
    sendTimeout := orDefault a.sendTimeout (30 * second)
    keepAlive := orDefault a.keepAlive (30 * second)
    pool :=
      { maxIdleConns := orDefault a.pool.maxIdleConns 5
        maxOpenConns := orDefault a.pool.maxOpenConns 20
        idleTimeout := orDefault a.pool.idleTimeout (60 * second) }
    rateLimit :=
      { maxRecipientsPerEmail := orDefault a.rateLimit.maxRecipientsPerEmail 50
        emailSizeLimit :=
          if a.rateLimit.emailSizeLimit < 0 then 15 * 1024 * 1024 else a.rateLimit.emailSizeLimit
        emailsPerSecond :=
          if a.rateLimit.emailsPerSecond < 0 then 0
          else if a.rateLimit.emailsPerSecond > 10000 then 10000
          else a.rateLimit.emailsPerSecond } }

def encryptions : List String := ["", "AUTO", "SSL", "TLS", "STARTTLS", "NONE"]

def authTypes : List String := ["", "AUTO", "PLAIN", "LOGIN", "CRAM-MD5", "NONE"]

variable (parseAddress : String → Except GoError String)

/-- The checks in their order; without a name the errors do not mention the account. -/
def validate (a : SmtpAccountConfig) (accountName : String := "") : Option GoError :=
  let start := if accountName = "" then "smtp" else "smtp account " ++ quote accountName
  if trimSpace a.host = "" then some ⟨start ++ ": host is required"⟩
  else if a.port ≤ 0 ∨ 65535 < a.port then
    some ⟨start ++ ": invalid port " ++ toString a.port ++ " (must be between 1 and 65535)"⟩
  else if trimSpace a.sender = "" then some ⟨start ++ ": from address is required"⟩
  else match parseAddress a.sender with
    | .error err =>
      some ⟨start ++ ": invalid from email address " ++ quote a.sender ++ ": " ++ err.text⟩
    | .ok _ =>
      match if a.replyTo = "" then .ok "" else parseAddress a.replyTo with
      | .error err =>
        some ⟨start ++ ": invalid reply_to email address " ++ quote a.replyTo ++ ": " ++ err.text⟩
      | .ok _ =>
        if !encryptions.contains (upperWord a.encryption) then
          some ⟨start ++ ": unsupported encryption type " ++ quote a.encryption⟩
        else if !authTypes.contains (upperWord a.authType) then
          some ⟨start ++ ": unsupported auth_type " ++ quote a.authType⟩
        else if a.insecureSkipVerify ∧ !sameFold a.encryption "None" ∧ !sameFold a.encryption "" then
          some ⟨start ++ ": insecure_skip_verify=true is not permitted with encryption=" ++
            quote a.encryption ++ "; use a valid TLS cert or set encryption=None for local development"⟩
        else none

end SmtpAccountConfig

abbrev SmtpConfig := AList fun _ : String => SmtpAccountConfig

abbrev AccountEntry := Σ _ : String, SmtpAccountConfig

/-- Why an account is not found: what `errors.Is` tells apart. -/
inductive LookupError
  | defaultAccountRequired
  | accountNotFound (name : String)
  deriving DecidableEq, Repr

def LookupError.error : LookupError → GoError
  | defaultAccountRequired => errDefaultAccountRequired
  | accountNotFound name => ⟨errAccountNotFound.text ++ ": " ++ name⟩

namespace SmtpConfig

/-- Every entry is replaced in its place. -/
def applyDefaults (c : SmtpConfig) : SmtpConfig where
  entries := c.entries.map fun e => ⟨e.1, e.2.applyDefaults⟩
  nodupKeys := by
    have hkeys : (c.entries.map fun e : AccountEntry => (⟨e.1, e.2.applyDefaults⟩ : AccountEntry)).keys =
        c.entries.keys := by
      simp [List.keys, List.map_map, Function.comp_def]
    have hnodup := c.nodupKeys
    rwa [List.NodupKeys, ← hkeys] at hnodup

def isDefault (name : String) : Bool := sameFold name defaultAccountName

/-- The error, if there is one, and the map with the defaults filled in. -/
def validate (parseAddress : String → Except GoError String) (order : RangeOrder AccountEntry)
    (c : SmtpConfig) : Option GoError × SmtpConfig :=
  if c.entries = [] then (some errDefaultAccountRequired, c)
  else if !c.keys.any isDefault then (some errDefaultAccountRequired, c)
  else
    ((order.arrange c.applyDefaults.entries).findSome? fun e => e.2.validate parseAddress e.1, c.applyDefaults)

/-- The first entry of a range whose name is equal to this one up to case. -/
def findFold (order : RangeOrder AccountEntry) (c : SmtpConfig) (name : String) : Option SmtpAccountConfig :=
  ((order.arrange c.entries).find? fun e => sameFold e.1 name).map (·.2)

def getAccount (order : RangeOrder AccountEntry) (c : SmtpConfig) (name : String) :
    Except LookupError SmtpAccountConfig :=
  if c.entries = [] then .error .defaultAccountRequired
  else
    let trimmed := trimSpace name
    if trimmed = "" ∨ isDefault trimmed then
      match c.findFold order defaultAccountName with
      | some acc => .ok acc
      | none => .error .defaultAccountRequired
    else match (c.lookup trimmed).or (c.findFold order trimmed) with
      | some acc => .ok acc
      | none => .error (.accountNotFound trimmed)

end SmtpConfig

end MailBaby.Smtp
