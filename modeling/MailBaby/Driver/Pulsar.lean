import MailBaby.Config
import MailBaby.World

/-!
# Pulsar driver

`Producer` and `Consumer` are both opened on the configured topic, so neither `Publish` nor
`Consume` computes an address.
-/

namespace MailBaby.Pulsar

open Lib

/-- A `pulsar.ProducerMessage` with the topic its producer was created on. -/
structure ProducerMessage where
  topic : String
  payload : Bytes
  key : String
  properties : Headers
  eventTime : Time
  deliverAfter : Duration

/-- The producer's topic is fixed when it is created; the option topic and the message's own
topic are not read. -/
def publish (cfg : PulsarConfig) (m : Message) (opts : List PublishOption) : ProducerMessage :=
  let po := publishOptions opts
  let props := mergeHeaders m.headers po.headers
  { topic := cfg.topic
    payload := m.payload
    key := if po.key ≠ "" then po.key else m.key
    properties := if m.id ≠ "" then props.insert "X-Message-ID" m.id else props
    eventTime := m.timestamp
    deliverAfter := if po.delay > 0 then po.delay else if m.delay > 0 then m.delay else 0 }

/-- A received `pulsar.Message`; `id` is its identifier as formatted by `%v`. -/
structure ReceivedMessage where
  id : String := ""
  topic : String := ""
  payload : Bytes := []
  properties : Headers := ∅
  key : String := ""
  publishTime : Time := 0
  redeliveryCount : Nat := 0

def toMessage (p : ReceivedMessage) : Message :=
  let msgID := (p.properties.lookup "X-Message-ID").getD ""
  let msg : Message :=
    { id := if msgID = "" then p.id else msgID
      topic := p.topic
      payload := p.payload
      headers := p.properties
      key := p.key
      timestamp := p.publishTime
      attempts := p.redeliveryCount + 1 }
  (msg.setAckFunc .pulsarAck).setNackFunc .pulsarNack

def processMessage (co : ConsumeOptions) (handler : Handler) (p : ReceivedMessage) : Proc Unit :=
  deliver co.autoAck handler (toMessage p)

def consumerTopic (cfg : PulsarConfig) : String := cfg.topic

end MailBaby.Pulsar
