import MailBaby.Lib.Marshal
import MailBaby.Lib.Transition
import MailBaby.Metrics

/-!
# The StatsD client

The recorders turn a call into lines, which the client collects in a buffer and writes to its socket in datagrams.
A step of the client is a section under its lock, or one on its two channels.
-/

namespace MailBaby.Metrics

open Lib

/-! ### Lines -/

def isDelimiter (c : Char) : Bool := c = ':' || c = '|' || c = '\n'

def Undelimited (t : List Char) : Prop := ∀ c ∈ t, isDelimiter c = false

instance (t : List Char) : Decidable (Undelimited t) :=
  decidable_of_iff (t.all fun c => !isDelimiter c) (by simp [Undelimited])

/-- A `float64` as `%f` or `%.2f` prints it: digits, a sign and a point, or the name of a special value. -/
structure FloatText where
  text : List Char
  undelimited : Undelimited text

/-- How `float64(n)` and the milliseconds of a duration are printed. -/
structure FloatFormat where
  ofInt : Int → FloatText
  millis : Int → FloatText

structure Stat where
  base : String
  labels : List String
  value : List Char
  kind : String

def Stat.name (st : Stat) : List Char := st.base.toList ++ st.labels.flatMap fun label => '.' :: label.toList

/-- What `Count`, `Gauge` and `Timing` pass to `send`. -/
def Stat.line (pre : List Char) (st : Stat) : List Char :=
  pre ++ st.name ++ ':' :: (st.value ++ '|' :: (st.kind.toList ++ ['\n']))

inductive Recorder
  | incEmailsSent (account status : String)
  | observeEmailDuration (account : String) (d : Int)
  | addEmailRecipients (account rcptType : String) (count : Int)
  | addEmailBytes (account : String) (bytes : Int)
  | setSmtpPoolStats (account : String) (active idle : Int)
  | incQueueReceived (driver topic : String)
  | incQueueProcessed (driver topic status : String)
  | incQueueRetried (driver topic : String)
  | observeQueueProcessDuration (driver topic : String) (d : Int)
  | setQueueDepth (driver topic : String) (depth : FloatText)
  | setQueueInFlight (driver topic : String) (inFlight : FloatText)

section Recorders

variable (sha256 : Bytes → Bytes) (fmt : FloatFormat)

def count (base : String) (labels : List String) (n : Int) : Stat :=
  ⟨base, labels.map (sanitizeLabel sha256), Json.intText n, "c"⟩

def gauge (base : String) (labels : List String) (value : FloatText) : Stat :=
  ⟨base, labels.map (sanitizeLabel sha256), value.text, "g"⟩

def timing (base : String) (labels : List String) (d : Int) : Stat :=
  ⟨base, labels.map (sanitizeLabel sha256), (fmt.millis d).text, "ms"⟩

def Recorder.stats : Recorder → List Stat
  | .incEmailsSent account status => [count sha256 "email.sent" [account, status] 1]
  | .observeEmailDuration account d => [timing sha256 fmt "email.duration" [account] d]
  | .addEmailRecipients account rcptType n =>
    if n ≤ 0 then [] else [count sha256 "email.recipients" [account, rcptType] n]
  | .addEmailBytes account bytes => if bytes ≤ 0 then [] else [count sha256 "email.bytes" [account] bytes]
  | .setSmtpPoolStats account active idle =>
    [gauge sha256 "smtp.pool.active" [account] (fmt.ofInt active),
      gauge sha256 "smtp.pool.idle" [account] (fmt.ofInt idle)]
  | .incQueueReceived driver topic => [count sha256 "queue.received" [driver, topic] 1]
  | .incQueueProcessed driver topic status => [count sha256 "queue.processed" [driver, topic, status] 1]
  | .incQueueRetried driver topic => [count sha256 "queue.retried" [driver, topic] 1]
  | .observeQueueProcessDuration driver topic d => [timing sha256 fmt "queue.duration" [driver, topic] d]
  | .setQueueDepth driver topic depth => [gauge sha256 "queue.depth" [driver, topic] depth]
  | .setQueueInFlight driver topic inFlight => [gauge sha256 "queue.in_flight" [driver, topic] inFlight]

end Recorders

structure ParsedMetric where
  name : List Char
  value : List Char
  kind : List Char
  deriving DecidableEq

/-- The field up to the delimiter `stop`, and what follows. -/
def readField (stop : Char) (t : List Char) : Option (List Char × List Char) :=
  if (t.dropWhile fun c => !isDelimiter c).head? = some stop then
    some (t.takeWhile fun c => !isDelimiter c, (t.dropWhile fun c => !isDelimiter c).tail)
  else none

/-- The grammar `name ':' value '|' type LF`. -/
def parseMetric (line : List Char) : Option ParsedMetric := do
  let (name, rest) ← readField ':' line
  let (value, rest) ← readField '|' rest
  let (kind, rest) ← readField '\n' rest
  if rest = [] then some ⟨name, value, kind⟩ else none

/-! ### Datagrams -/

def datagramLimit : Nat := 1400

/-- Where `flushLoop` stands: at its `select`, at the `Flush` of either case, or at its end. -/
inductive FlushLoop
  | selecting
  | ticked
  | stopping
  | done
  deriving DecidableEq

/-- Where the call of `Close` stands that has found the client open. -/
inductive Closing
  | idle
  | marked
  | waiting
  | returned
  deriving DecidableEq

/-- The client and what it wrote to the socket; `accepted` are the lines that were appended to the buffer. -/
structure StatsDClient where
  buf : Bytes := []
  closed : Bool := false
  stop : Bool := false
  loop : FlushLoop := .selecting
  closing : Closing := .idle
  datagrams : List Bytes := []
  accepted : List Bytes := []

namespace StatsDClient

/-- The socket is closed when `Close` returns. -/
def flushLocked (s : StatsDClient) : StatsDClient :=
  if s.buf = [] then s
  else { s with datagrams := if s.closing = .returned then s.datagrams else s.datagrams ++ [s.buf], buf := [] }

def send (s : StatsDClient) (line : Bytes) : StatsDClient :=
  if s.closed then s
  else
    let s := { s with buf := s.buf ++ line, accepted := s.accepted ++ [line] }
    if s.buf.length > datagramLimit then s.flushLocked else s

def close (s : StatsDClient) : StatsDClient := if s.closed then s else { s with closed := true, closing := .marked }

/-- Calls of `send`, `Flush` and `Close`, the further steps of `Close`, and those of `flushLoop`. -/
inductive Action
  | send (line : Bytes)
  | flush
  | close
  | proceed
  | tick
  | halt
  | loopFlush
  deriving DecidableEq

def step (s : StatsDClient) : Action → Option StatsDClient
  | .send line => some (s.send line)
  | .flush => some s.flushLocked
  | .close => some s.close
  | .proceed =>
    match s.closing with
    | .marked => some { s with stop := true, closing := .waiting }
    | .waiting => if s.loop = .done then some { s with closing := .returned } else none
    | _ => none
  | .tick => if s.loop = .selecting then some { s with loop := .ticked } else none
  | .halt => if s.loop = .selecting ∧ s.stop then some { s with loop := .stopping } else none
  | .loopFlush =>
    match s.loop with
    | .ticked => some { s.flushLocked with loop := .selecting }
    | .stopping => some { s.flushLocked with loop := .done }
    | _ => none

/-- Every datagram is made of whole lines, and together they are the first of the accepted ones. -/
def WholeLines (s : StatsDClient) : Prop :=
  ∃ groups : List (List Bytes), s.datagrams = groups.map List.flatten ∧ groups.flatten <+: s.accepted

def InLimit (s : StatsDClient) : Prop := ∀ d ∈ s.datagrams, d.length ≤ datagramLimit

/-- A line that is appended leaves the buffer within the limit. -/
def Fits (s : StatsDClient) : Action → Prop
  | .send line => s.closed = true ∨ (s.buf ++ line).length ≤ datagramLimit
  | _ => True

instance (s : StatsDClient) : (a : Action) → Decidable (s.Fits a)
  | .send line => inferInstanceAs (Decidable (s.closed = true ∨ (s.buf ++ line).length ≤ datagramLimit))
  | .flush | .close | .proceed | .tick | .halt | .loopFlush => isTrue trivial

end StatsDClient

end MailBaby.Metrics
