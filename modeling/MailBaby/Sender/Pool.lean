import Mathlib.Data.Multiset.Bind
import MailBaby.Lib.Threads
import MailBaby.Queue.Message

/-!
# The SMTP connection pool

`SmtpConnPool` under concurrent calls of `Acquire`, `Release` and `Close`. A call is cut into the
steps that other goroutines can see: lock operations, channel operations, atomic additions and
the calls on a connection. The semaphore channel is its number of tokens; the idle channel is the
list of its buffered clients, and a waiting receiver may also be handed a client directly.
-/

namespace MailBaby.Pool

open Lib

structure SmtpPoolConfig where
  maxIdleConns : Int := 0
  maxOpenConns : Int := 0
  idleTimeout : Duration := 0

/-- Of an account the pool itself reads its section only; the rest goes to `Dial`. -/
structure SmtpAccountConfig where
  pool : SmtpPoolConfig := {}

def errPoolClosed : GoError := ⟨"sender: connection pool is closed"⟩

/-- The fields that `NewSmtpConnPool` computes once and for all. -/
structure SmtpConnPool where
  maxOpen : Nat
  maxIdle : Nat
  idleTimeout : Duration

def newSmtpConnPool (cfg : SmtpAccountConfig) : SmtpConnPool :=
  let maxIdle := if cfg.pool.maxIdleConns = 0 then 5 else cfg.pool.maxIdleConns
  let maxIdle := if maxIdle < 0 then 0 else maxIdle
  let maxOpen := if cfg.pool.maxOpenConns ≤ 0 then 20 else cfg.pool.maxOpenConns
  let maxIdle := if maxIdle > maxOpen then maxOpen else maxIdle
  { maxOpen := maxOpen.toNat
    maxIdle := maxIdle.toNat
    idleTimeout := if cfg.pool.idleTimeout ≤ 0 then 60 * 1000000000 else cfg.pool.idleTimeout }

/-- A connection, numbered by the semaphore token it was dialled under. -/
abbrev Conn := Nat

/-- The mutable fields of the pool. `dialled`, `closedConns` and `failedDials` record what was done
to connections, and `lent` the clients that `Acquire` returned and `Release` has not got back. -/
structure State where
  sem : Nat := 0
  idleConns : List Conn := []
  idleClosed : Bool := false
  activeConns : Int := 0
  closed : Bool := false
  readers : Nat := 0
  writer : Bool := false
  nextConn : Conn := 0
  dialled : List Conn := []
  closedConns : List Conn := []
  lent : List Conn := []
  failedDials : Nat := 0
  panicked : Bool := false

inductive Phase
  | first
  | second
  deriving DecidableEq, Repr

/-- Where a call goes on after a connection was closed and its token given back. -/
inductive Resume
  | acquire (phase : Phase)
  | dialFailed (err : GoError)
  | release
  | drain
  deriving DecidableEq, Repr

inductive Result
  | acquired (client : Conn)
  | failed (err : GoError)
  | released
  | closed
  deriving DecidableEq, Repr

inductive Call
  | acquire
  | phase1
  | phase2
  | testing (phase : Phase) (client : Conn)
  | dialling (client : Conn)
  | counting (client : Conn)
  | release (client : Option Conn) (err : Option GoError)
  | releasing (client : Conn) (err : Option GoError)
  | sending (client : Conn)
  | unlocking
  | close
  | closeChecking
  | closingIdle
  | closeUnlocking (drain : Bool)
  | draining
  | closing (resume : Resume) (client : Conn)
  | decrementing (resume : Resume) (client : Conn)
  | returningToken (resume : Resume) (client : Conn)
  | returned (result : Result)
  deriving DecidableEq, Repr

def Resume.next : Resume → Call
  | acquire .first => .phase1
  | acquire .second => .phase2
  | dialFailed err => .returned (.failed ⟨"sender pool: failed to dial SMTP: " ++ err.text⟩)
  | release => .unlocking
  | drain => .draining

inductive Request
  | acquire
  | release (client : Option Conn) (err : Option GoError)
  | close
  deriving DecidableEq, Repr

/-- The choices of the scheduler and of the surroundings: which case of a `select` is taken, how
long a client was idle, what `Reset` and `Dial` return. -/
inductive Action
  | proceed
  | token
  | receive
  | done (err : GoError)
  | test (idleFor : Duration) (reset : Option GoError)
  | dial (err : Option GoError)
  deriving DecidableEq, Repr

variable (pool : SmtpConnPool)

def stepAcquire (p : State) : Call → Action → Option (State × Call)
  | .acquire, .proceed =>
    if p.writer then none
    else if p.closed then some (p, .returned (.failed errPoolClosed)) else some (p, .phase1)
  | .phase1, .proceed =>
    match p.idleConns with
    | client :: rest => some ({ p with idleConns := rest }, .testing .first client)
    | [] => if p.idleClosed then some (p, .returned (.failed errPoolClosed)) else some (p, .phase2)
  | .phase2, .token =>
    if p.sem < pool.maxOpen then
      some ({ p with sem := p.sem + 1, nextConn := p.nextConn + 1 }, .dialling p.nextConn)
    else none
  | .phase2, .receive =>
    match p.idleConns with
    | client :: rest => some ({ p with idleConns := rest }, .testing .second client)
    | [] => if p.idleClosed then some (p, .returned (.failed errPoolClosed)) else none
  | .phase2, .done err => some (p, .returned (.failed err))
  | .testing phase client, .test idleFor reset =>
    if idleFor > pool.idleTimeout ∨ reset.isSome then some (p, .closing (.acquire phase) client)
    else some ({ p with lent := client :: p.lent }, .returned (.acquired client))
  | .dialling client, .dial (some err) =>
    some ({ p with failedDials := p.failedDials + 1 }, .decrementing (.dialFailed err) client)
  | .dialling client, .dial none =>
    some ({ p with dialled := client :: p.dialled }, .counting client)
  | .counting client, .proceed =>
    some ({ p with activeConns := p.activeConns + 1, lent := client :: p.lent },
      .returned (.acquired client))
  | _, _ => none

/-- `Release` holds the read lock from its first step to its last. -/
def stepRelease (p : State) : Call → Action → Option (State × Call)
  | .release none _, .proceed => some (p, .returned .released)
  | .release (some client) err, .proceed =>
    if p.writer then none else some ({ p with readers := p.readers + 1 }, .releasing client err)
  | .releasing client err, .proceed =>
    if err.isSome ∨ p.closed then some (p, .closing .release client) else some (p, .sending client)
  | .sending client, .proceed =>
    if p.idleClosed then some ({ p with panicked := true }, .unlocking)
    else if p.idleConns.length < pool.maxIdle then
      some ({ p with idleConns := p.idleConns ++ [client] }, .unlocking)
    else some (p, .closing .release client)
  | .unlocking, .proceed => some ({ p with readers := p.readers - 1 }, .returned .released)
  | _, _ => none

def stepClose (p : State) : Call → Action → Option (State × Call)
  | .close, .proceed =>
    if p.writer ∨ p.readers ≠ 0 then none else some ({ p with writer := true }, .closeChecking)
  | .closeChecking, .proceed =>
    if p.closed then some (p, .closeUnlocking false)
    else some ({ p with closed := true }, .closingIdle)
  | .closingIdle, .proceed =>
    if p.idleClosed then some ({ p with panicked := true }, .closeUnlocking true)
    else some ({ p with idleClosed := true }, .closeUnlocking true)
  | .closeUnlocking drain, .proceed =>
    some ({ p with writer := false }, if drain then .draining else .returned .closed)
  | .draining, .proceed =>
    match p.idleConns with
    | client :: rest => some ({ p with idleConns := rest }, .closing .drain client)
    | [] => if p.idleClosed then some (p, .returned .closed) else none
  | _, _ => none

/-- Closing a client and `decrementActive`, whose receive from the semaphore does nothing when the
semaphore is empty. -/
def stepTearDown (p : State) : Call → Action → Option (State × Call)
  | .closing resume client, .proceed =>
    some ({ p with closedConns := client :: p.closedConns }, .decrementing resume client)
  | .decrementing resume client, .proceed =>
    some ({ p with activeConns := p.activeConns - 1 }, .returningToken resume client)
  | .returningToken resume _, .proceed => some ({ p with sem := p.sem - 1 }, resume.next)
  | _, _ => none

/-- At most one of the four applies to a call. -/
def step (p : State) (l : Call) (a : Action) : Option (State × Call) :=
  stepAcquire pool p l a <|> stepRelease pool p l a <|> stepClose p l a <|> stepTearDown p l a

/-- A borrower gives back only what it was lent, and gives it back once. -/
def request (p : State) : Request → Option (State × Call)
  | .acquire => some (p, .acquire)
  | .release none err => some (p, .release none err)
  | .release (some client) err =>
    if client ∈ p.lent then
      some ({ p with lent := p.lent.erase client }, .release (some client) err)
    else none
  | .close => some (p, .close)

/-- A `Release` hands its client to an `Acquire` that waits on the idle channel. -/
def handOver (p : State) : Call → Call → Option (State × Call × Call)
  | .sending client, .phase2 =>
    if p.idleClosed then none else some (p, .unlocking, .testing .second client)
  | _, _ => none

def program : Program State Call Request Action where
  call := request
  step := step pool
  meet := handOver

end MailBaby.Pool
