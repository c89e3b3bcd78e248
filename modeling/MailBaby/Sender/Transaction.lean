import MailBaby.Lib.Attempt
import MailBaby.Sender.Account

/-!
# SMTP transactions

`SmtpClient.Send` over a connection, and the receiver at its other end as RFC 5321 has it. A reply may get
lost: the client then sees an error although the receiver has carried the command out. Deadlines show as
lost replies only; the dot stuffing of the content and the extensions of MAIL are left out.
-/

namespace MailBaby.Sender.Client

open Lib Lib.Mime

/-! ### The receiver -/

inductive Request
  | mail (mailFrom : String)
  | rcpt (recipient : String)
  | data
  /-- The content and the dot after it. -/
  | message (content : Text)
  | rset

def Request.text : Request → Text
  | mail mailFrom => ("MAIL FROM:<" ++ mailFrom ++ ">\r\n").toList
  | rcpt recipient => ("RCPT TO:<" ++ recipient ++ ">\r\n").toList
  | data => "DATA\r\n".toList
  | message content => content
  | rset => "RSET\r\n".toList

inductive Stage
  | idle
  | envelope (call : SmtpCall)
  | receiving (call : SmtpCall)

structure Receiver where
  stage : Stage := .idle
  accepted : List SmtpCall := []

/-- A request is carried out. After DATA every line is content. -/
def Receiver.serve (s : Receiver) (request : Request) : Receiver :=
  match s.stage, request with
  | .receiving call, .message content =>
    { stage := .idle, accepted := s.accepted ++ [{ call with data := call.data ++ content }] }
  | .receiving call, request =>
    { s with stage := .receiving { call with data := call.data ++ request.text } }
  | _, .mail mailFrom => { s with stage := .envelope ⟨mailFrom, [], []⟩ }
  | .envelope call, .rcpt recipient =>
    { s with stage := .envelope { call with recipients := call.recipients ++ [recipient] } }
  | .envelope call, .data => { s with stage := .receiving call }
  | _, .rset => { s with stage := .idle }
  | _, _ => s

/-- What becomes of a request. A client that is told of success is told the truth. -/
structure Reply where
  taken : Bool
  err : Option GoError
  honest : err = none → taken = true

def Reply.apply (reply : Reply) (request : Request) (s : Receiver) : Receiver :=
  if reply.taken then s.serve request else s

/-- The receiver has carried the request out and the client does not know. -/
def Reply.Lost (reply : Reply) : Prop := reply.taken = true ∧ reply.err ≠ none

/-! ### The client -/

structure TransactionEnv where
  ctxErr : Option GoError
  mail : Reply
  rcpt : Nat → Reply
  data : Reply
  write : Option GoError
  close : Reply
  reset : Reply

abbrev Transaction := EStateM GoError Receiver

def expect (request : Request) (reply : Reply) (failed : GoError → Transaction Unit) : Transaction Unit := do
  modify (reply.apply request)
  match reply.err with
  | none => pure ()
  | some err => failed err

/-- Package `net/smtp` does not send an address with a line break. -/
def expectLine (line : String) (request : Request) (reply : Reply) (failed : GoError → Transaction Unit) :
    Transaction Unit :=
  if hasBreak line.toList then failed ⟨"smtp: A line must not contain CR or LF"⟩
  else expect request reply failed

variable (env : TransactionEnv)

/-- The result of the RSET is ignored. -/
def abandon (text : String) (err : GoError) : Transaction Unit := do
  modify (env.reset.apply .rset)
  throw ⟨text ++ err.text⟩

def rcptAll : Nat → List String → Transaction Unit
  | _, [] => pure ()
  | i, rcpt :: rest => do
    expectLine rcpt (.rcpt rcpt) (env.rcpt i) (abandon env ("sender: RCPT TO <" ++ rcpt ++ "> failed: "))
    rcptAll (i + 1) rest

/-- When a write has failed, nothing more goes over the connection: the buffered writer keeps the error, and
so the dot and the RSET are not sent. -/
def writeBody : Transaction Unit :=
  match env.write with
  | none => pure ()
  | some err => throw ⟨"sender: writing message body failed: " ++ err.text⟩

def transact (call : SmtpCall) : Transaction Unit := do
  expectLine call.mailFrom (.mail call.mailFrom) env.mail fun err =>
    throw ⟨"sender: MAIL FROM <" ++ call.mailFrom ++ "> failed: " ++ err.text⟩
  rcptAll env 0 call.recipients
  expect .data env.data (abandon env "sender: DATA command failed: ")
  writeBody env
  expect (.message call.data) env.close (abandon env "sender: closing DATA writer failed: ")

def send (call : SmtpCall) : Transaction Unit :=
  if call.recipients = [] then throw errNoRecipients
  else match env.ctxErr with
    | some err => throw err
    | none => transact env call

/-! ### The life of a connection -/

/-- `reset` is the answer to the RSET of `Acquire`, if the client comes from the idle ones. -/
structure Use where
  reset : Option Reply
  call : SmtpCall
  env : TransactionEnv

def Use.run (u : Use) : Transaction Unit :=
  match u.reset with
  | none => send u.env u.call
  | some reply => do
    expect .rset reply fun err => throw err
    send u.env u.call

end MailBaby.Sender.Client
