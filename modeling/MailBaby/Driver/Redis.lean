import MailBaby.Config
import MailBaby.Lib.Marshal
import MailBaby.World

/-!
# Redis driver

One encoder, the JSON envelope that `Publish` writes in every mode, and four decoders: the
stream, list and pub/sub consumers and `Receive`.
-/

namespace MailBaby.Redis

open Lib

structure MessageEnvelope where
  id : String
  topic : String
  payload : Bytes
  headers : Headers
  timestamp : Time
  attempts : Int

/-- `encoding/json` on envelopes. -/
structure EnvelopeCodec where
  marshal : MessageEnvelope → Except GoError Bytes
  unmarshal : Bytes → Except GoError MessageEnvelope

namespace MessageEnvelope

def idField : StructField MessageEnvelope := .of "id" (·.id) (fun env v => { env with id := v }) .string

def topicField : StructField MessageEnvelope :=
  .of "topic" (·.topic) (fun env v => { env with topic := v }) .string

def payloadField : StructField MessageEnvelope :=
  .of "payload" (·.payload) (fun env v => { env with payload := v }) .bytes

def headersField : StructField MessageEnvelope :=
  .of "headers" (·.headers) (fun env v => { env with headers := v }) (.map .string "")

def timestampField : StructField MessageEnvelope :=
  .of "timestamp" (·.timestamp) (fun env v => { env with timestamp := v }) .time

def attemptsField : StructField MessageEnvelope :=
  .of "attempts" (·.attempts) (fun env v => { env with attempts := v }) .int64

def fields : List (StructField MessageEnvelope) :=
  [idField, topicField, payloadField, headersField, timestampField, attemptsField]

lemma nodup_fields : (fields.map fun f => foldName f.name).Nodup := by decide +kernel

def zero : MessageEnvelope := ⟨"", "", [], ∅, 0, 0⟩

def fromJSON (data : Bytes) : Option MessageEnvelope := (Decoder.struct fields).unmarshal zero data

/-- Headers are left out if there are none. A time that has no four-digit year cannot be written. -/
def tree (zone : Int) (env : MessageEnvelope) : Option Json.Tree :=
  (Timestamp.format zone env.timestamp).map fun time => .obj
    ([("id", .str env.id.toList), ("topic", .str env.topic.toList),
      ("payload", .str (Base64.encode env.payload))] ++
    (if env.headers.entries = [] then [] else [("headers", .texts env.headers)]) ++
    [("timestamp", .str time), ("attempts", .int env.attempts)])

/-- `json.Marshal`; `zone` is the offset of the local zone in minutes. -/
def toJSON (zone : Int) (env : MessageEnvelope) : Option Bytes := (env.tree zone).map fun t => utf8 t.render

end MessageEnvelope

/-- `encoding/json` on envelopes as the decoders see it, up to the texts of its errors. -/
def EnvelopeCodec.standard (jsonError : Bytes → GoError)
    (marshal : MessageEnvelope → Except GoError Bytes) : EnvelopeCodec where
  marshal := marshal
  unmarshal data :=
    match MessageEnvelope.fromJSON data with
    | some env => .ok env
    | none => .error (jsonError data)

/-- `encoding/json` on envelopes, up to the texts of its errors. -/
def EnvelopeCodec.json (jsonError : Bytes → GoError) (timeError : GoError) (zone : Int) : EnvelopeCodec :=
  .standard jsonError fun env =>
    match env.toJSON zone with
    | some data => .ok data
    | none => .error timeError

structure XMessage where
  id : String
  values : AList fun _ : String => Bytes

inductive Write
  | xAdd (stream : String) (values : AList fun _ : String => Bytes) (maxLen : Option Int)
  | rPush (key : String) (data : Bytes)
  | publish (channel : String) (data : Bytes)

def envelope (cfg : RedisConfig) (po : PublishOptions) (m : Message) : MessageEnvelope :=
  { id := m.id
    topic := publishTopic cfg.key po m
    payload := m.payload
    headers := mergeHeaders m.headers po.headers
    timestamp := m.timestamp
    attempts := m.attempts }

def streamValues (env : MessageEnvelope) (rawJSON : Bytes) : AList fun _ : String => Bytes :=
  ((∅ : AList fun _ : String => Bytes).insert "id" env.id.toUTF8.toList).insert "payload"
    env.payload |>.insert "data" rawJSON

def write (cfg : RedisConfig) (mode : RedisMode) (env : MessageEnvelope) (rawJSON : Bytes) : Write :=
  match mode with
  | .stream =>
    .xAdd env.topic (streamValues env rawJSON) (if cfg.maxLen > 0 then some cfg.maxLen else none)
  | .list => .rPush env.topic rawJSON
  | .pubsub => .publish env.topic rawJSON

/-- `redisProducer.Publish`: the command and the delay after which it is issued, if any. -/
def publish (codec : EnvelopeCodec) (cfg : RedisConfig) (m : Message) (opts : List PublishOption) :
    Except GoError (Write × Option Duration) :=
  let po := publishOptions opts
  let env := envelope cfg po m
  match codec.marshal env with
  | .error err => .error ⟨"redis: failed to marshal envelope: " ++ err.text⟩
  | .ok rawJSON =>
    match cfg.effectiveMode with
    | none => .error (errPublishFailed.wrap
        ⟨"redis: unsupported mode " ++ quote (toLower (trimSpace cfg.mode))⟩)
    | some mode =>
      .ok (write cfg mode env rawJSON,
        if po.delay > 0 ∨ m.delay > 0 then some (if po.delay = 0 then m.delay else po.delay)
        else none)

/-- The message of an unwrapped envelope; the topic is the one read from. -/
def ofEnvelope (topic : String) (env : MessageEnvelope) : Message :=
  { id := env.id
    topic := topic
    payload := env.payload
    headers := env.headers
    timestamp := env.timestamp
    attempts := env.attempts }

def streamMessage (codec : EnvelopeCodec) (now : Time) (stream group : String) (x : XMessage) :
    Message :=
  let plain : Message :=
    { id := x.id
      topic := stream
      payload := (x.values.lookup "payload").getD []
      timestamp := now
      attempts := 1 }
  let msg : Message :=
    match x.values.lookup "data" with
    | none | some [] => plain
    | some raw =>
      match codec.unmarshal raw with
      | .ok env => ofEnvelope stream env
      | .error _ => plain
  (msg.setAckFunc (.xAck stream group x.id)).setNackFunc .returnNil

def processStreamMessage (codec : EnvelopeCodec) (now : Time) (stream group : String)
    (co : ConsumeOptions) (handler : Handler) (x : XMessage) : Proc Unit :=
  deliver co.autoAck handler (streamMessage codec now stream group x)

def listMessage (codec : EnvelopeCodec) (now : Time) (key : String) (rawData : Bytes) : Message :=
  let msg : Message :=
    match codec.unmarshal rawData with
    | .ok env => ofEnvelope key env
    | .error _ => { topic := key, payload := rawData, timestamp := now, attempts := 1 }
  (msg.setAckFunc .returnNil).setNackFunc (.lPush key rawData)

/-- The list consumer has no automatic mode. -/
def processListMessage (codec : EnvelopeCodec) (now : Time) (key : String) (handler : Handler)
    (rawData : Bytes) : Proc Unit :=
  deliver false handler (listMessage codec now key rawData)

/-- The pub/sub consumer hands the published bytes out as they are. -/
def pubsubMessage (now : Time) (key : String) (payload : Bytes) : Message :=
  let msg : Message := { topic := key, payload := payload, timestamp := now, attempts := 1 }
  (msg.setAckFunc .returnNil).setNackFunc .returnNil

/-- The body of the pub/sub loop: no settlement follows the handler. -/
def processPubSubMessage (now : Time) (key : String) (handler : Handler) (payload : Bytes) :
    Proc Unit := do
  Eff.update (World.setMsg · (pubsubMessage now key payload))
  discard handler

/-- `Receive` in list mode wraps the popped bytes in a new message. -/
def receiveMessage (uuid : String) (now : Time) (rawData : Bytes) : Message :=
  Message.newMessage uuid now rawData

def consumeGroup (cfg : RedisConfig) : String :=
  if cfg.group = "" then "mailbaby_consumer_group" else cfg.group

def consumeKey (cfg : RedisConfig) (co : ConsumeOptions) : String := consumeTopic cfg.key co

inductive Access
  | consume
  | receive
  deriving DecidableEq

/-- What a consumer adds on its own: the time, a new identifier, the entry that `XADD` assigned. -/
structure Arrival where
  now : Time
  uuid : String
  entryID : String

/-- The message that the consumer hands out for what was written; `Receive` supports lists only. -/
def handOut (codec : EnvelopeCodec) (cfg : RedisConfig) (a : Arrival) : Access → Write → Option Message
  | .consume, .xAdd stream values _ =>
    some (streamMessage codec a.now stream (consumeGroup cfg) ⟨a.entryID, values⟩)
  | .consume, .rPush key data => some (listMessage codec a.now key data)
  | .consume, .publish channel data => some (pubsubMessage a.now channel data)
  | .receive, .rPush _ data => some (receiveMessage a.uuid a.now data)
  | .receive, _ => none

end MailBaby.Redis
