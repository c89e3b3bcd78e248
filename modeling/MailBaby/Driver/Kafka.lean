import MailBaby.Config
import MailBaby.World

/-!
# Kafka driver

The writer that `New` builds, the records of `Publish` and `PublishBatch`, and the
per-message function of the consumer.
-/

namespace MailBaby.Kafka

open Lib

structure Writer where
  topic : String

def newWriter (cfg : KafkaConfig) : Writer := ⟨cfg.topic⟩

/-- A `kafka.Message`; its headers form a list, in which a name may occur twice. -/
structure Record where
  topic : String := ""
  partition : Nat := 0
  offset : Nat := 0
  key : String := ""
  value : Bytes := []
  headers : List (String × String) := []
  time : Time := 0

def headerList (h : Headers) : List (String × String) := h.entries.map fun kv => (kv.1, kv.2)

def publish (cfg : KafkaConfig) (m : Message) (opts : List PublishOption) : Record :=
  let po := publishOptions opts
  { topic := publishTopic cfg.topic po m
    key := if po.key ≠ "" then po.key else m.key
    value := m.payload
    headers := headerList m.headers ++ headerList po.headers ++
      if m.id ≠ "" then [("X-Message-ID", m.id)] else []
    time := m.timestamp }

/-- `PublishBatch` skips nil messages; unlike `Publish` it ignores the option key and writes
no message identifier. -/
def publishBatch (cfg : KafkaConfig) (ms : List (Option Message)) (opts : List PublishOption) :
    List Record :=
  ms.filterMap fun m? => m?.map fun m =>
    let po := publishOptions opts
    { topic := publishTopic cfg.topic po m
      key := m.key
      value := m.payload
      headers := headerList m.headers ++ headerList po.headers
      time := m.timestamp }

/-- The documented rule of the writer: exactly one of the two topics is set. -/
def Writer.accepts (w : Writer) (r : Record) : Bool := decide (w.topic ≠ "") ^^ decide (r.topic ≠ "")

def Writer.effectiveTopic (w : Writer) (r : Record) : String :=
  if r.topic ≠ "" then r.topic else w.topic

def toMessage (r : Record) : Message :=
  let headers : Headers := r.headers.foldl (fun acc kv => acc.insert kv.1 kv.2) ∅
  let msgID := (headers.lookup "X-Message-ID").getD ""
  let msg : Message :=
    { id := if msgID = "" then
          "k-" ++ r.topic ++ "-" ++ toString r.partition ++ "-" ++ toString r.offset
        else msgID
      topic := r.topic
      payload := r.value
      headers := headers
      key := r.key
      timestamp := r.time
      attempts := 1 }
  (msg.setAckFunc (.commitMessages r.topic r.partition r.offset)).setNackFunc .returnNil

def processMessage (cfg : KafkaConfig) (co : ConsumeOptions) (handler : Handler) (r : Record) :
    Proc Unit :=
  deliver (co.autoAck || cfg.autoCommit) handler (toMessage r)

def readerTopic (cfg : KafkaConfig) (co : ConsumeOptions) : String := consumeTopic cfg.topic co

end MailBaby.Kafka
