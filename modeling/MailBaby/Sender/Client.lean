import MailBaby.Lib.Attempt
import MailBaby.Smtp

/-!
# SMTP connections

`Dial` opens a connection, puts it under TLS and authenticates. Everything that goes over the network is
logged together with the state that the connection was in; what the network and the server answer is a
parameter, and every step of `Dial` is taken at most once.
-/

namespace MailBaby.Sender.Client

open Lib Smtp

def errAuthFailed : GoError := ⟨"sender: smtp authentication failed"⟩

structure TLSConfig where
  serverName : String
  insecureSkipVerify : Bool
  deriving DecidableEq, Repr

structure Dialer where
  timeout : Duration
  keepAlive : Duration

inductive Command
  | dial (dialer : Dialer) (addr : String)
  | handshake (config : TLSConfig)
  | greeting
  | hello (host : String)
  | startTLS
  | auth (mechanism : String) (initial : Option String)
  | quit
  | close

structure Issued where
  command : Command
  tls : Bool

structure Session where
  tls : Bool := false
  issued : List Issued := []

/-- What the steps of `Dial` meet with. -/
structure DialEnv where
  hostname : Except GoError String := .ok ""
  dial : Option GoError := none
  handshake : Option GoError := none
  greeting : Option GoError := none
  hello : Option GoError := none
  /-- Whether the server advertises STARTTLS. -/
  extension : Bool := false
  startTLS : Option GoError := none
  /-- The second EHLO, under TLS. -/
  ehlo : Option GoError := none
  auth : Option GoError := none

abbrev Dialling := EStateM GoError Session

def log (command : Command) : Dialling Unit :=
  modify fun s => { s with issued := s.issued ++ [⟨command, s.tls⟩] }

def issue (command : Command) (result : Option GoError) (closes : Bool) (text : String) : Dialling Unit := do
  log command
  match result with
  | none => pure ()
  | some err => do
    if closes then log .close
    throw ⟨text ++ err.text⟩

def refuse (text : String) : Dialling Unit := do
  log .close
  throw ⟨text⟩

/-! ### SASL mechanisms -/

def isLocalhost (name : String) : Bool := name = "localhost" || name = "127.0.0.1" || name = "::1"

structure ServerInfo where
  name : String
  tls : Bool

inductive SASL
  | plain (username password host : String)
  | login (username password host : String)
  | cramMD5 (username secret : String)
  deriving DecidableEq, Repr

/-- The PLAIN mechanism of package `net/smtp` and the LOGIN mechanism make the same checks. -/
def checkServer (host : String) (server : ServerInfo) : Except GoError Unit :=
  if !server.tls && !isLocalhost server.name then .error ⟨"unencrypted connection"⟩
  else if server.name ≠ host then .error ⟨"wrong host name"⟩
  else .ok ()

/-- The mechanism and the initial response. -/
def SASL.start : SASL → ServerInfo → Except GoError (String × Option String)
  | plain username password host, server =>
    (checkServer host server).map fun _ => ("PLAIN", some ("\x00" ++ username ++ "\x00" ++ password))
  | login username _ host, server => (checkServer host server).map fun _ => ("LOGIN", some username)
  | cramMD5 _ _, _ => .ok ("CRAM-MD5", none)

def buildAuth (authType username password host : String) : Option SASL :=
  if trimSpace username = "" ∧ trimSpace password = "" then none
  else if upperWord authType = "PLAIN" then some (.plain username password host)
  else if upperWord authType = "LOGIN" then some (.login username password host)
  else if upperWord authType = "CRAM-MD5" then some (.cramMD5 username password)
  else if upperWord authType = "NONE" then none
  else some (.plain username password host)

/-! ### Dial -/

variable (env : DialEnv) (cfg : SmtpAccountConfig)

def tlsConfig : TLSConfig := ⟨cfg.host, cfg.insecureSkipVerify⟩

def dialer : Dialer :=
  ⟨SmtpAccountConfig.orDefault cfg.connectTimeout (10 * second),
    SmtpAccountConfig.orDefault cfg.keepAlive (30 * second)⟩

def addr : String := cfg.host ++ ":" ++ toString cfg.port

def heloHost : String :=
  if cfg.heloHostname ≠ "" then cfg.heloHostname
  else match env.hostname with
    | .ok h => if h ≠ "" then h else "localhost"
    | .error _ => "localhost"

/-- The encryption is left to `Dial`. -/
def inferred : Bool := cfg.encryption = "" || sameFold cfg.encryption "Auto"

def encryption : String :=
  if inferred cfg then (if cfg.port = 465 then "SSL" else "STARTTLS") else cfg.encryption

def hasCredentials : Bool := cfg.username ≠ "" || cfg.password ≠ ""

def handshake (closes : Bool) (text : String) : Dialling Unit := do
  issue (.handshake (tlsConfig cfg)) env.handshake closes text
  modify fun s => { s with tls := true }

/-- A client on the connection, up to the answer to its EHLO. -/
def newClient : Dialling Unit := do
  issue .greeting env.greeting true "sender: failed to create smtp client: "
  issue (.hello (heloHost env cfg)) env.hello true "sender: HELO/EHLO failed: "

def dialPlain : Dialling Unit := do
  issue (.dial (dialer cfg) (addr cfg)) env.dial false ("sender: failed to dial " ++ addr cfg ++ ": ")
  newClient env cfg

def connect : Dialling Unit := do
  if upperWord (encryption cfg) = "SSL" ∨ upperWord (encryption cfg) = "TLS" then
    issue (.dial (dialer cfg) (addr cfg)) env.dial false ("sender: failed to dial TLS " ++ addr cfg ++ ": ")
    handshake env cfg false ("sender: failed to dial TLS " ++ addr cfg ++ ": ")
    newClient env cfg
  else if upperWord (encryption cfg) = "STARTTLS" then
    dialPlain env cfg
    if env.extension then
      issue .startTLS env.startTLS true "sender: STARTTLS failed: "
      handshake env cfg true "sender: STARTTLS failed: "
      issue (.hello (heloHost env cfg)) env.ehlo true "sender: STARTTLS failed: "
    else if !inferred cfg then
      refuse "sender: server does not advertise STARTTLS but encryption is required"
    else if hasCredentials cfg then
      refuse "sender: server does not advertise STARTTLS; refusing to authenticate in plaintext"
  else if upperWord (encryption cfg) = "NONE" then dialPlain env cfg
  else throw ⟨"sender: unsupported encryption " ++ quote (encryption cfg)⟩

/-- `client.Auth`: a mechanism that does not start ends the session without an AUTH command. -/
def clientAuth (auth : SASL) : Dialling Unit := do
  let session ← get
  match auth.start ⟨cfg.host, session.tls⟩ with
  | .error err => do
    log .quit
    refuse (errAuthFailed.text ++ ": " ++ err.text)
  | .ok (mechanism, initial) => issue (.auth mechanism initial) env.auth true (errAuthFailed.text ++ ": ")

/-- Credentials are not sent in plaintext; the second comparison is of the text as it was written. -/
def guardPlaintext : Dialling Unit := do
  let session ← get
  if !session.tls && !isLocalhost cfg.host then
    if cfg.authType = "LOGIN" then refuse "sender: refusing to authenticate over plaintext SMTP"
    else if cfg.authType ≠ "None" then
      refuse ("sender: refusing to send plaintext credentials over unencrypted SMTP connection; " ++
        "enable STARTTLS/SSL")

def authenticate : Dialling Unit :=
  if hasCredentials cfg then
    match buildAuth cfg.authType cfg.username cfg.password cfg.host with
    | none => pure ()
    | some auth => do
      guardPlaintext cfg
      clientAuth env cfg auth
  else pure ()

/-- The connection itself is the session. -/
structure SmtpClient where
  cfg : SmtpAccountConfig

def dial : Dialling SmtpClient := do
  connect env cfg
  authenticate env cfg
  pure ⟨cfg⟩

end MailBaby.Sender.Client
