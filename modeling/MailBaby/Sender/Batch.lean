import Mathlib.Logic.Function.Basic
import MailBaby.Sender.Account
import MailBaby.Sender.Pool

/-!
# Concurrent batches

Calls of `MultiAccountSender.SendBatch` that run at the same time. Each email has a goroutine of its own,
which takes a slot of the semaphore, sends the email through its account and stores the error of `Send` at
its index. A goroutine moves in the steps that others can see: operations on channels, additions to the
counters of an account, and the steps of `Acquire` and `Release` on the connection pool of the account.
What the JSON encoder, `BuildMIME`, `Dial`, `Reset` and the SMTP client answer comes with the step.
-/

namespace MailBaby.SendBatch

open Lib Lib.Mime Smtp Sender

structure Account where
  rateLimiter : Nat := 0
  pool : Pool.State := {}
  totalSent : Nat := 0
  totalFailed : Nat := 0

/-- The variables of a call. `started` is the loop variable, `wg` the counter of the wait group. -/
structure BatchCall where
  emails : List (Option Email)
  errorsList : List (Option GoError)
  started : Nat := 0
  wg : Nat := 0
  ctxErr : Option GoError := none

/-- `batchSem` is the number of slots in use; the accounts are found under their keys in the map. -/
structure State where
  batchSem : Nat := 0
  accounts : String → Account
  calls : List BatchCall := []
  /-- A goroutine has panicked, which ends the process. -/
  crashed : Bool := false

/-! ### Goroutines -/

/-- The email of a `Send`, the account that it goes through and the key of the account. -/
structure Job where
  key : String
  acc : AccountSender
  email : Email

inductive Event
  | selected (key : String)
  | acquired (key : String) (client : Pool.Conn)
  | transmitted (key : String) (client : Pool.Conn) (call : SmtpCall) (err : Option GoError)
  | released (key : String) (client : Pool.Conn) (err : Option GoError)

inductive Phase
  /-- At the `select` on the semaphore. -/
  | entering
  | refused (err : GoError)
  /-- In `MultiAccountSender.Send`. -/
  | sending
  /-- In `accountSender.Send`: the checks of the email, the `select` on the rate limiter, `BuildMIME`. -/
  | checking (j : Job)
  | limiting (j : Job)
  | building (j : Job)
  | acquiring (j : Job) (data : Text) (l : Pool.Call)
  | transmitting (j : Job) (data : Text) (client : Pool.Conn)
  | releasing (j : Job) (client : Pool.Conn) (err : Option GoError) (l : Pool.Call)
  | counting (j : Job) (err : Option GoError)
  | storing (err : Option GoError)
  /-- The deferred receive from the semaphore is left, or the deferred `wg.Done` alone. -/
  | leaving (err : Option GoError)
  | exiting (err : Option GoError)
  | finished (err : Option GoError)

/-- The goroutine of the email at index `idx` of a call; no step reads `events`. -/
structure Goroutine where
  call : Nat
  idx : Nat
  item : Option Email
  phase : Phase := .entering
  events : List Event := []

inductive Thread
  /-- A call of `SendBatch`, with what it has returned. -/
  | caller (id : Nat) (results : Option (List (Option GoError)))
  | goroutine (g : Goroutine)
  /-- The goroutine that refills the rate limiter of an account. -/
  | limiter (key : String)

/-- `start` is the next turn of the loop of a call. -/
inductive Request
  | sendBatch (emails : List (Option Email))
  | start (id : Nat)

/-- `done` is the case of a `select` in which the context is done; `cancel` ends the context of a call. -/
inductive Action
  | proceed
  | done
  | check (env : SendEnv)
  | build (env : MIMEEnv)
  | pool (a : Pool.Action)
  | deliver (err : Option GoError)
  | cancel (err : GoError)
  | tick

namespace State

variable (s : State)

def ctxErr (id : Nat) : Option GoError := s.calls[id]?.bind BatchCall.ctxErr

def updateCall (id : Nat) (f : BatchCall → BatchCall) : State := { s with calls := s.calls.modify id f }

def updateAccount (key : String) (f : Account → Account) : State :=
  { s with accounts := Function.update s.accounts key (f (s.accounts key)) }

def setPool (key : String) (p : Pool.State) : State := s.updateAccount key fun a => { a with pool := p }

end State

def BatchCall.store (idx : Nat) (err : Option GoError) (c : BatchCall) : BatchCall :=
  { c with errorsList := c.errorsList.set idx err }

def BatchCall.done (c : BatchCall) : BatchCall := { c with wg := c.wg - 1 }

def Account.count (err : Option GoError) (a : Account) : Account :=
  match err with
  | none => { a with totalSent := a.totalSent + 1 }
  | some _ => { a with totalFailed := a.totalFailed + 1 }

namespace Goroutine

variable (g : Goroutine)

def goto (phase : Phase) : Goroutine := { g with phase := phase }

def log (e : Event) (phase : Phase) : Goroutine := { g with phase := phase, events := g.events ++ [e] }

end Goroutine

def Job.smtpCall (codec : Codec) (j : Job) (data : Text) : SmtpCall :=
  ⟨j.acc.envelopeFrom j.email, allRecipients codec j.email, data⟩

/-- `Acquire` waits for the context of its call only. -/
def stopsWith (ctxErr : Option GoError) : Pool.Action → Bool
  | .done err => ctxErr == some err
  | _ => true

def acquired (g : Goroutine) (j : Job) (data : Text) : Pool.Call → Goroutine
  | .returned (.acquired client) => g.log (.acquired j.key client) (.transmitting j data client)
  | .returned (.failed err) => g.goto (.counting j (some err))
  | l => g.goto (.acquiring j data l)

def released (g : Goroutine) (j : Job) (client : Pool.Conn) (err : Option GoError) : Pool.Call → Goroutine
  | .returned _ => g.log (.released j.key client err) (.counting j err)
  | l => g.goto (.releasing j client err l)

variable (m : MultiAccountSender) (codec : Codec)

def stepGoroutine (s : State) (g : Goroutine) (a : Action) : Option (State × Goroutine) :=
  match g.phase, a with
  | .entering, .proceed =>
    if s.batchSem < m.batchSem then some ({ s with batchSem := s.batchSem + 1 }, g.goto .sending) else none
  | .entering, .done => (s.ctxErr g.call).map fun err => (s, g.goto (.refused err))
  | .refused err, .proceed =>
    some (s.updateCall g.call (.store g.idx (some err)), g.goto (.exiting (some err)))
  | .sending, .proceed =>
    match g.item with
    | none => some (s, g.goto (.storing (some errNilEmail)))
    | some email =>
      match m.accounts.lookup (target email.account) with
      | none => some (s, g.goto (.storing (some (MultiAccountSender.notFound email.account))))
      | some acc =>
        some (s, g.log (.selected (target email.account)) (.checking ⟨target email.account, acc, email⟩))
  | .checking j, .check env =>
    -- the context is looked at after the other checks
    match j.acc.refuses codec { env with ctxErr := none } j.email with
    | some err => some (s, g.goto (.counting j (some err)))
    | none => some (s, g.goto (if j.acc.tokens.isSome then .limiting j else .building j))
  | .limiting j, .proceed =>
    if 0 < (s.accounts j.key).rateLimiter then
      some (s.updateAccount j.key fun a => { a with rateLimiter := a.rateLimiter - 1 }, g.goto (.building j))
    else none
  | .limiting j, .done => (s.ctxErr g.call).map fun err => (s, g.goto (.counting j (some err)))
  | .building j, .build env =>
    match buildMIME env j.email j.acc.cfg.sender j.acc.cfg.fromName with
    | .panics => some ({ s with crashed := true }, g)
    | .err err =>
      some (s, g.goto (.counting j (some ⟨"sender: failed to build MIME message: " ++ err.text⟩)))
    | .ok data => some (s, g.goto (.acquiring j data .acquire))
  | .acquiring j data l, .pool a =>
    if stopsWith (s.ctxErr g.call) a then
      (Pool.step j.acc.pool (s.accounts j.key).pool l a).map fun r =>
        (s.setPool j.key r.1, acquired g j data r.2)
    else none
  | .transmitting j data client, .deliver err =>
    let p := (s.accounts j.key).pool
    some (s.setPool j.key { p with lent := p.lent.erase client },
      g.log (.transmitted j.key client (j.smtpCall codec data) err)
        (.releasing j client err (.release (some client) err)))
  | .releasing j client err l, .pool a =>
    (Pool.step j.acc.pool (s.accounts j.key).pool l a).map fun r =>
      (s.setPool j.key r.1, released g j client err r.2)
  | .counting j err, .proceed => some (s.updateAccount j.key (Account.count err), g.goto (.storing err))
  | .storing err, .proceed => some (s.updateCall g.call (.store g.idx err), g.goto (.leaving err))
  | .leaving err, .proceed =>
    if 0 < s.batchSem then some ({ s with batchSem := s.batchSem - 1 }, g.goto (.exiting err)) else none
  | .exiting err, .proceed => some (s.updateCall g.call .done, g.goto (.finished err))
  | _, _ => none

/-! ### Calls -/

/-- `wg.Wait` ends when the loop has started all goroutines and all have ended. -/
def stepCaller (s : State) (id : Nat) :
    Option (List (Option GoError)) → Action → Option (State × Option (List (Option GoError)))
  | none, .proceed =>
    s.calls[id]?.bind fun c =>
      if c.started = c.emails.length ∧ c.wg = 0 then some (s, some c.errorsList) else none
  | results, .cancel err => some (s.updateCall id fun c => { c with ctxErr := c.ctxErr <|> some err }, results)
  | _, _ => none

/-- The ticker adds a token where there is room. -/
def stepLimiter (s : State) (key : String) : Action → Option State
  | .tick =>
    ((m.accounts.lookup key).bind AccountSender.tokens).map fun capacity =>
      if (s.accounts key).rateLimiter < capacity then
        s.updateAccount key fun a => { a with rateLimiter := a.rateLimiter + 1 }
      else s
  | _ => none

def step (s : State) (l : Thread) (a : Action) : Option (State × Thread) :=
  if s.crashed then none
  else
    match l with
    | .caller id results => (stepCaller s id results a).map fun r => (r.1, .caller id r.2)
    | .goroutine g => (stepGoroutine m codec s g a).map fun r => (r.1, .goroutine r.2)
    | .limiter key => (stepLimiter m s key a).map fun s' => (s', .limiter key)

def request (s : State) (r : Request) : Option (State × Thread) :=
  if s.crashed then none
  else
    match r with
    | .sendBatch emails =>
      some ({ s with calls := s.calls ++ [{ emails := emails, errorsList := List.replicate emails.length none }] },
        .caller s.calls.length none)
    | .start id =>
      s.calls[id]?.bind fun c => c.emails[c.started]?.map fun item =>
        (s.updateCall id fun c => { c with started := c.started + 1, wg := c.wg + 1 },
          .goroutine { call := id, idx := c.started, item := item })

/-- A `Release` hands its client to an `Acquire` that waits on the idle channel of the same pool. -/
def handOver (s : State) : Thread → Thread → Option (State × Thread × Thread)
  | .goroutine g, .goroutine g' =>
    match g.phase, g'.phase with
    | .releasing j client err l, .acquiring j' data l' =>
      if s.crashed = false ∧ j.key = j'.key then
        (Pool.handOver (s.accounts j.key).pool l l').map fun r =>
          (s.setPool j.key r.1, .goroutine (released g j client err r.2.1), .goroutine (acquired g' j' data r.2.2))
      else none
    | _, _ => none
  | _, _ => none

def program : Program State Thread Request Action where
  call := request
  step := step m codec
  meet := handOver

/-- A new sender: its rate limiters are full, and each has the goroutine that refills it. -/
def start : System State Thread where
  shared :=
    { accounts := fun key => { rateLimiter := ((m.accounts.lookup key).bind AccountSender.tokens).getD 0 } }
  threads := m.accounts.entries.filterMap fun e => if e.2.tokens.isSome then some (.limiter e.1) else none

end MailBaby.SendBatch
