import MailBaby.Lib.Maps

/-!
# Queue messages

The driver-independent message with its settlement state, and the publish and consume
options. Callbacks are kept as data: a driver installs one of finitely many ack and nack
functions, each naming the broker object it was closed over.
-/

namespace MailBaby

abbrev Bytes := List UInt8

/-- A `map[string]string`; a nil map reads like an empty one. -/
abbrev Headers := AList fun _ : String => String

/-- A `time.Duration` in nanoseconds. -/
abbrev Duration := Int

abbrev Time := Int

/-- A Go error value, identified by its text. -/
structure GoError where
  text : String
  deriving DecidableEq, Repr

def GoError.wrap (e cause : GoError) : GoError := ⟨e.text ++ ": " ++ cause.text⟩

def errQueueClosed : GoError := ⟨"queue: queue connection is closed"⟩
def errPublishFailed : GoError := ⟨"queue: failed to publish message"⟩
def errTimeout : GoError := ⟨"queue: operation timed out"⟩
def errAckNotSupported : GoError := ⟨"queue: ack function is not configured on message"⟩
def errNackNotSupported : GoError := ⟨"queue: nack function is not configured on message"⟩

inductive AckFunc
  | returnNil
  | deliveryAck (tag : Nat)
  | commitMessages (topic : String) (partition offset : Nat)
  | xAck (stream group id : String)
  | natsAck
  | pulsarAck
  | deleteMessage (queueURL receiptHandle : String)
  deriving DecidableEq, Repr

/-- The nack callbacks that the drivers pass to `SetNackFunc`. `requeueClone` is the memory
queue's; its flag says whether the clone counts as another attempt. -/
inductive NackFunc
  | returnNil
  | requeueClone (countAttempt : Bool)
  | deliveryNack (tag : Nat)
  | lPush (key : String) (rawData : Bytes)
  | natsNak (jetStream : Bool)
  | pulsarNack
  | changeVisibility (queueURL receiptHandle : String)
  deriving DecidableEq, Repr

structure Message where
  id : String := ""
  topic : String := ""
  payload : Bytes := []
  headers : Headers := ∅
  key : String := ""
  delay : Duration := 0
  timestamp : Time := 0
  attempts : Int := 0
  acknowledged : Bool := false
  ackFn : Option AckFunc := none
  nackFn : Option NackFunc := none

namespace Message

/-- `NewMessageWithID`; `uuid` is the identifier that `generateUUID` would return. -/
def newMessageWithID (uuid : String) (now : Time) (id : String) (payload : Bytes) : Message :=
  { id := if id = "" then uuid else id
    payload := payload
    timestamp := now
    attempts := 1 }

def newMessage (uuid : String) (now : Time) (payload : Bytes) : Message :=
  newMessageWithID uuid now uuid payload

def setAckFunc (m : Message) (fn : AckFunc) : Message := { m with ackFn := some fn }

def setNackFunc (m : Message) (fn : NackFunc) : Message := { m with nackFn := some fn }

def isAcknowledged (m : Message) : Bool := m.acknowledged

/-- `Clone` copies every field, the settlement state and the callbacks included. -/
def clone (m : Message) : Message :=
  { id := m.id
    topic := m.topic
    payload := m.payload
    headers := m.headers
    key := m.key
    delay := m.delay
    timestamp := m.timestamp
    attempts := m.attempts
    acknowledged := m.acknowledged
    ackFn := m.ackFn
    nackFn := m.nackFn }

@[simp] lemma clone_eq (m : Message) : m.clone = m := rfl

section Settlement

variable {M : Type → Type} [Monad M]

/-- The body that `Ack` and `Nack` share once the callback is known: flag first, call
without the lock, and take the flag back if the callback failed. -/
def settle (callback : Message → M (Option GoError)) (m : Message) :
    M (Option GoError × Message) := do
  let err ← callback { m with acknowledged := true }
  match err with
  | some e => pure (some e, { m with acknowledged := false })
  | none => pure (none, { m with acknowledged := true })

def ack (callback : AckFunc → M (Option GoError)) (m : Message) : M (Option GoError × Message) :=
  if m.acknowledged then pure (none, m)
  else match m.ackFn with
    | none => pure (some errAckNotSupported, m)
    | some fn => m.settle fun _ => callback fn

/-- `Message.Nack`. The callback sees the message with its flag already set. -/
def nack (callback : NackFunc → Bool → Message → M (Option GoError)) (requeue : Bool)
    (m : Message) : M (Option GoError × Message) :=
  if m.acknowledged then pure (none, m)
  else match m.nackFn with
    | none => pure (some errNackNotSupported, m)
    | some fn => m.settle (callback fn requeue)

end Settlement

end Message

structure PublishOptions where
  topic : String := ""
  key : String := ""
  delay : Duration := 0
  headers : Headers := ∅
  timeout : Duration := 0

inductive PublishOption
  | withTopic (topic : String)
  | withKey (key : String)
  | withDelay (delay : Duration)
  | withHeader (key value : String)
  | withHeaders (headers : Headers)
  | withPublishTimeout (timeout : Duration)

def mergeHeaders (base extra : Headers) : Headers :=
  extra.entries.foldl (fun acc kv => acc.insert kv.1 kv.2) base

lemma lookup_mergeHeaders (base extra : Headers) (key : String) :
    (mergeHeaders base extra).lookup key = (extra.lookup key).or (base.lookup key) := by
  have hlookup := Lib.lookup_foldl_insert id extra base key
  rwa [Option.map_id] at hlookup

def PublishOption.apply (o : PublishOptions) : PublishOption → PublishOptions
  | .withTopic topic => { o with topic := topic }
  | .withKey key => { o with key := key }
  | .withDelay delay => { o with delay := delay }
  | .withHeader key value => { o with headers := o.headers.insert key value }
  | .withHeaders headers => { o with headers := mergeHeaders o.headers headers }
  | .withPublishTimeout timeout => { o with timeout := timeout }

def publishOptions (opts : List PublishOption) : PublishOptions :=
  opts.foldl PublishOption.apply {}

/-- The destination that most drivers compute in `Publish`: the option topic, else the
message's own topic, else the configured one. -/
def publishTopic (configured : String) (po : PublishOptions) (m : Message) : String :=
  if po.topic ≠ "" then po.topic else if m.topic ≠ "" then m.topic else configured

structure ConsumeOptions where
  topic : String := ""
  concurrency : Int := 0
  autoAck : Bool := false
  prefetchCount : Int := 0
  batchSize : Int := 0

def consumeTopic (configured : String) (co : ConsumeOptions) : String :=
  if co.topic ≠ "" then co.topic else configured

end MailBaby
