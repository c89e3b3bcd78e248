import MailBaby.Driver.Memory
import MailBaby.Tracing

/-!
# Publishing one message several times

A message holds a slice and a map, so what a producer and a consumer see depends on which of them they
share. `Publish` writes its options into the message of its caller and sends a clone, which has a slice and
a map of its own.
-/

namespace MailBaby.MemoryPublish

open Lib Tracing

/-- The slices and the maps by their addresses. -/
structure Heap where
  slices : List Bytes
  maps : List Headers

/-- A `Message` as it lies in memory: the addresses of its payload and its headers. -/
structure Object where
  id : String
  topic : String
  payload : Nat
  headers : Option Nat
  key : String
  delay : Duration
  timestamp : Time
  attempts : Int
  acknowledged : Bool
  ackFn : Option AckFunc
  nackFn : Option NackFunc

/-- The message that somebody sees who reads the object. -/
def Heap.read (h : Heap) (o : Object) : Message where
  id := o.id
  topic := o.topic
  payload := h.slices.getD o.payload []
  headers := (o.headers.map fun a => h.maps.getD a ∅).getD ∅
  key := o.key
  delay := o.delay
  timestamp := o.timestamp
  attempts := o.attempts
  acknowledged := o.acknowledged
  ackFn := o.ackFn
  nackFn := o.nackFn

/-- What became of a call: the queue was closed, the clone was not placed, or it was, now or after its
delay. -/
inductive Outcome
  | closed
  | failed
  | placed
  deriving DecidableEq

structure Call where
  opts : List PublishOption
  ctx : Context := {}
  outcome : Outcome := .placed

inductive Change
  | payload (data : Bytes)
  | headers (h : Headers)

/-- The message of the caller, and the clones that were placed on the channel. -/
structure State where
  heap : Heap
  msg : Object
  placed : List Object := []

namespace State

variable (s : State)

def makeHeaders : State :=
  match s.msg.headers with
  | some _ => s
  | none => { s with heap.maps := s.heap.maps ++ [∅], msg.headers := some s.heap.maps.length }

def writeHeaders (f : Headers → Headers) : State :=
  match s.msg.headers with
  | some a => { s with heap.maps := s.heap.maps.set a (f (s.heap.maps.getD a ∅)) }
  | none => s

def setHeader (key value : String) : State := s.makeHeaders.writeHeaders fun h => h.insert key value

def setOptions (name : String) (po : PublishOptions) : State :=
  { s with
    msg.topic := if po.topic ≠ "" then po.topic else if s.msg.topic = "" then name else s.msg.topic
    msg.key := if po.key ≠ "" then po.key else s.msg.key
    msg.delay := if po.delay > 0 then po.delay else s.msg.delay }

def injectHeaders (ctx : Context) : State :=
  match spanFromContext ctx with
  | none => s.makeHeaders
  | some span => s.makeHeaders.writeHeaders fun h => h.insert headerTraceParent (traceParent span)

def prepare (name : String) (c : Call) : State :=
  let po := publishOptions c.opts
  let s := s.setOptions name po
  let s := po.headers.entries.foldl (fun s kv => s.setHeader kv.1 kv.2) s
  s.injectHeaders c.ctx

/-- `Clone`, with a slice and a map of its own. -/
def clone : State × Object :=
  let headers := (s.msg.headers.map fun a => s.heap.maps.getD a ∅).getD ∅
  ({ s with
      heap.slices := s.heap.slices ++ [s.heap.slices.getD s.msg.payload []]
      heap.maps := s.heap.maps ++ [headers] },
    { s.msg with payload := s.heap.slices.length, headers := some s.heap.maps.length })

def publish (name : String) (c : Call) : State :=
  match c.outcome with
  | .closed => s
  | .failed => (s.prepare name c).clone.1
  | .placed =>
    let r := (s.prepare name c).clone
    { r.1 with placed := r.1.placed ++ [r.2] }

def change : Change → State
  | .payload data => { s with heap.slices := s.heap.slices.set s.msg.payload data }
  | .headers h => s.makeHeaders.writeHeaders fun _ => h

end State

/-- The caller publishes the message or changes it. -/
inductive Op
  | publish (c : Call)
  | change (c : Change)

def State.apply (name : String) (s : State) : Op → State
  | .publish c => s.publish name c
  | .change c => s.change c

def State.run (name : String) (s : State) (ops : List Op) : State := ops.foldl (State.apply name) s

def State.publishAll (name : String) (s : State) (calls : List Call) : State :=
  calls.foldl (fun s c => s.publish name c) s

def State.start (m : Message) (headers : Option Headers) : State where
  heap := ⟨[m.payload], headers.toList⟩
  msg :=
    { id := m.id
      topic := m.topic
      payload := 0
      headers := headers.map fun _ => 0
      key := m.key
      delay := m.delay
      timestamp := m.timestamp
      attempts := m.attempts
      acknowledged := m.acknowledged
      ackFn := m.ackFn
      nackFn := m.nackFn }

/-! ### What the calls should do -/

/-- The fields that options determine are the same, up to the header of the tracing. -/
structure Agrees (m m' : Message) : Prop where
  topic : m.topic = m'.topic
  key : m.key = m'.key
  delay : m.delay = m'.delay
  headers : ∀ k, k ≠ headerTraceParent → m.headers.lookup k = m'.headers.lookup k

/-- Every call places what the message as it was at first and its own options say, and nothing that the
caller does later changes what was placed. -/
structure Isolated (name : String) (m : Message) (headers : Option Headers) (calls : List Call) : Prop where
  own : ∀ earlier c later, calls = earlier ++ c :: later → c.outcome = .placed →
    ∃ o, ((State.start m headers).publishAll name (earlier ++ [c])).placed =
        ((State.start m headers).publishAll name earlier).placed ++ [o] ∧
      Agrees (((State.start m headers).publishAll name (earlier ++ [c])).heap.read o)
        (Memory.prepare name ∅ { m with headers := headers.getD ∅ } c.opts)
  frame : ∀ earlier later ops, calls = earlier ++ later →
    ∀ o ∈ ((State.start m headers).publishAll name earlier).placed,
      (((State.start m headers).publishAll name earlier).run name ops).heap.read o =
        ((State.start m headers).publishAll name earlier).heap.read o

/-- What the last of the calls that have got so far sets. -/
def lastSet {α : Type} (set : PublishOptions → Option α) (calls : List Call) : Option α :=
  calls.reverse.findSome? fun c => if c.outcome = .closed then none else set (publishOptions c.opts)

def setTopic (po : PublishOptions) : Option String := if po.topic ≠ "" then some po.topic else none

def setKey (po : PublishOptions) : Option String := if po.key ≠ "" then some po.key else none

def setDelay (po : PublishOptions) : Option Duration := if po.delay > 0 then some po.delay else none

/-- Whatever the earlier calls have set, the call sets itself, or the message had it from the first. -/
structure Undisturbed (name : String) (m : Message) (earlier : List Call) (po : PublishOptions) : Prop where
  topic : setTopic po = none → ∀ t, lastSet setTopic earlier = some t → t = publishTopic name {} m
  key : setKey po = none → ∀ k, lastSet setKey earlier = some k → k = m.key
  delay : setDelay po = none → ∀ d, lastSet setDelay earlier = some d → d = m.delay
  headers : ∀ k, k ≠ headerTraceParent → po.headers.lookup k = none →
    ∀ v, lastSet (fun po => po.headers.lookup k) earlier = some v → m.headers.lookup k = some v

end MailBaby.MemoryPublish
