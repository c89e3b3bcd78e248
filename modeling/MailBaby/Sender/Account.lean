import MailBaby.Lib.Eff
import MailBaby.Sender.Mime
import MailBaby.Smtp

/-!
# Sending through accounts

`accountSender` sends an email through one account and `MultiAccountSender` chooses the account. While
an email is sent, the surroundings answer the calls that leave the sender: the JSON encoder, the rate
limiter, the connection pool and the SMTP client. Spans and log lines are left out.
-/

namespace MailBaby.Sender

open Lib Lib.Mime Smtp

def errNilEmail : GoError := ⟨"sender: email cannot be nil"⟩
def errMaxRecipientsExceeded : GoError := ⟨"sender: number of recipients exceeds account limit"⟩
def errAccountNotFound : GoError := ⟨"sender: smtp account not found"⟩
def errEmailTooLarge : GoError := ⟨"sender: email payload exceeds configured size limit"⟩

/-! ### One account -/

/-- `tokens` is the capacity of the rate limiter, if there is one. -/
structure AccountSender where
  name : String
  cfg : SmtpAccountConfig
  pool : Pool.SmtpConnPool
  tokens : Option Nat

def newAccountSender (name : String) (cfg : SmtpAccountConfig) : AccountSender :=
  let cfg := cfg.applyDefaults
  let rate := cfg.rateLimit.emailsPerSecond
  { name := name
    cfg := cfg
    pool := Pool.newSmtpConnPool ⟨cfg.pool⟩
    tokens := if 0 < rate then some (if 1000 < rate then 1000 else rate).toNat else none }

/-- What happens outside while an email is sent. -/
structure SendEnv where
  toJSON : Email → Except GoError Bytes
  /-- The error of the context, if it is done before a token is taken. -/
  ctxErr : Option GoError := none
  mime : MIMEEnv
  acquire : Option GoError := none
  deliver : Option GoError := none

structure SmtpCall where
  mailFrom : String
  recipients : List String
  data : Text

structure AccountState where
  totalSent : Nat := 0
  totalFailed : Nat := 0
  calls : List SmtpCall := []

abbrev AccountProc := Eff SendEnv AccountState

/-- The address of a recipient, if it can be parsed. -/
def cleanAddress (codec : Codec) (addr : String) : String :=
  trimSpace (match codec.parseAddress addr with
    | .ok address => address
    | .error _ => addr)

/-- Addresses that differ in case only are added once. -/
def addRecipient (codec : Codec) (result : List String) (addr : String) : List String :=
  let clean := cleanAddress codec addr
  if clean = "" ∨ (result.map toLower).contains (toLower clean) then result else result ++ [clean]

def allRecipients (codec : Codec) (e : Email) : List String :=
  (e.toAddrs ++ e.cc ++ e.bcc).foldl (addRecipient codec) []

def fail (err : GoError) : AccountProc (Option GoError) := do
  Eff.update fun s => { s with totalFailed := s.totalFailed + 1 }
  pure (some err)

def nilDereference : String := "runtime error: invalid memory address or nil pointer dereference"

namespace AccountSender

variable (a : AccountSender)

def tooManyRecipients (recipients : List String) : Option GoError :=
  let maxRcpt := a.cfg.rateLimit.maxRecipientsPerEmail
  if 0 < maxRcpt ∧ maxRcpt < recipients.length then
    some ⟨errMaxRecipientsExceeded.text ++ ": got " ++ toString recipients.length ++
      " recipients, limit is " ++ toString maxRcpt⟩
  else none

def tooLarge (env : SendEnv) (email : Email) : Option GoError :=
  let limit := a.cfg.rateLimit.emailSizeLimit
  if 0 < limit then
    match env.toJSON email with
    | .ok data =>
      if limit < data.length then
        some ⟨errEmailTooLarge.text ++ ": payload " ++ toString data.length ++ " bytes exceeds limit " ++
          toString limit⟩
      else none
    | .error _ => none
  else none

/-- What the checks before the message is built object to. -/
def refuses (codec : Codec) (env : SendEnv) (email : Email) : Option GoError :=
  email.validate codec
    <|> (if allRecipients codec email = [] then some errNoRecipients else none)
    <|> a.tooManyRecipients (allRecipients codec email)
    <|> a.tooLarge env email
    <|> if a.tokens.isSome then env.ctxErr else none

/-- Which check has refused an email: what `errors.Is` tells apart. -/
inductive Refusal
  | invalid (err : GoError)
  | noRecipients
  | tooManyRecipients (err : GoError)
  | tooLarge (err : GoError)
  | stopped (err : GoError)

def Refusal.error : Refusal → GoError
  | invalid err => err
  | noRecipients => errNoRecipients
  | tooManyRecipients err => err
  | tooLarge err => err
  | stopped err => err

def refusal (codec : Codec) (env : SendEnv) (email : Email) : Option Refusal :=
  (email.validate codec).map .invalid
    <|> (if allRecipients codec email = [] then some .noRecipients else none)
    <|> (a.tooManyRecipients (allRecipients codec email)).map .tooManyRecipients
    <|> (a.tooLarge env email).map .tooLarge
    <|> if a.tokens.isSome then env.ctxErr.map .stopped else none

def envelopeFrom (email : Email) : String := if email.sender = "" then a.cfg.sender else email.sender

/-- The call of the SMTP client. -/
def transmit (call : SmtpCall) : AccountProc (Option GoError) := do
  Eff.update fun s => { s with calls := s.calls ++ [call] }
  let sendErr ← Eff.query fun env _ => env.deliver
  match sendErr with
  | some err => fail err
  | none => do
    Eff.update fun s => { s with totalSent := s.totalSent + 1 }
    pure none

def handOver (codec : Codec) (email : Email) (message : Text) : AccountProc (Option GoError) := do
  let acquireErr ← Eff.query fun env _ => env.acquire
  match acquireErr with
  | some err => fail err
  | none => transmit ⟨a.envelopeFrom email, allRecipients codec email, message⟩

def build (codec : Codec) (email : Email) : MIMEResult → AccountProc (Option GoError)
  | .panics => Eff.panic nilDereference
  | .err err => fail ⟨"sender: failed to build MIME message: " ++ err.text⟩
  | .ok message => a.handOver codec email message

def send (codec : Codec) : Option Email → AccountProc (Option GoError)
  | none => pure (some errNilEmail)
  | some email => do
    let refusal ← Eff.query fun env _ => a.refuses codec env email
    match refusal with
    | some err => fail err
    | none => do
      let built ← Eff.query fun env _ => buildMIME env.mime email a.cfg.sender a.cfg.fromName
      a.build codec email built

end AccountSender

/-! ### All accounts -/

def maxBatchConcurrencyUpper : Int := 512
def minBatchConcurrency : Int := 16

/-- The accounts by their names in lower case, and the capacity of the semaphore of `SendBatch`. -/
structure MultiAccountSender where
  accounts : AList fun _ : String => AccountSender
  batchSem : Int

def batchLimit (cfg : SmtpConfig) : Int :=
  let limit := cfg.entries.foldl
    (fun limit e => limit + if e.2.pool.maxOpenConns ≤ 0 then 20 else e.2.pool.maxOpenConns) 0
  if limit < minBatchConcurrency then minBatchConcurrency
  else if limit > maxBatchConcurrencyUpper then maxBatchConcurrencyUpper
  else limit

/-- The entry that comes last in the range wins its name. -/
def accountsOf (order : RangeOrder AccountEntry) (cfg : SmtpConfig) : AList fun _ : String => AccountSender :=
  (order.arrange cfg.entries).foldl (fun m e => m.insert (toLower e.1) (newAccountSender e.1 e.2)) ∅

/-- A new sender; the validation and the loop that fills the map range over the accounts. -/
def new (parseAddress : String → Except GoError String) (validated filled : RangeOrder AccountEntry)
    (cfg : SmtpConfig) : Except GoError MultiAccountSender :=
  match cfg.validate parseAddress validated with
  | (some err, _) => .error ⟨"sender: invalid smtp config: " ++ err.text⟩
  | (none, cfg) => .ok ⟨accountsOf filled cfg, batchLimit cfg⟩

def target (account : String) : String :=
  if toLower (trimSpace account) = "" then defaultAccountName else toLower (trimSpace account)

namespace MultiAccountSender

variable (m : MultiAccountSender)

def notFound (account : String) : GoError := ⟨errAccountNotFound.text ++ ": " ++ quote (target account)⟩

def account (name : String) : Except GoError AccountSender :=
  match m.accounts.lookup (target name) with
  | some acc => .ok acc
  | none => .error (notFound name)

def send (codec : Codec) : Option Email → AccountProc (Option GoError)
  | none => pure (some errNilEmail)
  | some email =>
    match m.accounts.lookup (target email.account) with
    | some acc => acc.send codec (some email)
    | none => pure (some (notFound email.account))

/-- The surroundings of one goroutine of `SendBatch`: the error of the context, if it is done before the
semaphore lets the goroutine in, and those of its `Send`. -/
structure BatchEnv where
  ctxErr : Option GoError := none
  send : SendEnv

def batchItem (codec : Codec) (env : BatchEnv) (item : Option Email) : Except String (Option GoError) :=
  match env.ctxErr with
  | some err => .ok (some err)
  | none => (m.send codec item env.send {}).1

/-- The errors of the items; none if a goroutine panics, which ends the process. -/
def sendBatch (codec : Codec) (envs : Nat → BatchEnv) (emails : List (Option Email)) :
    Option (List (Option GoError)) :=
  (emails.mapIdx fun i item => m.batchItem codec (envs i) item).mapM Except.toOption

end MultiAccountSender

end MailBaby.Sender
