import MailBaby.Driver.Kafka
import MailBaby.Driver.NATS
import MailBaby.Driver.Pulsar
import MailBaby.Driver.RabbitMQ
import MailBaby.Driver.Redis
import MailBaby.Driver.RocketMQ
import MailBaby.Driver.SQS

/-!
# Brokers

What a consumer receives for what a producer wrote. A broker returns bodies, headers and properties
as they were written, Kafka also their order, and adds data of its own.
-/

namespace MailBaby

/-- What a broker and the arrival at the consumer add to a record. `properties` are those that
RocketMQ sets itself, and `now` is the consumer's clock. -/
structure Assigned where
  messageID : String := ""
  partition : Nat := 0
  offset : Nat := 0
  deliveryTag : Nat := 0
  receiptHandle : String := ""
  publishTime : Time := 0
  redeliveries : Nat := 0
  properties : Headers := ∅
  now : Time := 0

namespace Kafka

def received (a : Assigned) (r : Record) : Record := { r with partition := a.partition, offset := a.offset }

end Kafka

namespace RabbitMQ

def delivered (a : Assigned) (p : Publishing) : Delivery :=
  { messageId := p.messageId
    routingKey := p.routingKey
    body := p.body
    headers := p.headers
    timestamp := p.timestamp
    deliveryTag := a.deliveryTag }

end RabbitMQ

namespace Pulsar

def received (a : Assigned) (p : ProducerMessage) : ReceivedMessage :=
  { id := a.messageID
    topic := p.topic
    payload := p.payload
    properties := p.properties
    key := p.key
    publishTime := a.publishTime
    redeliveryCount := a.redeliveries }

end Pulsar

namespace SQS

def attributes (attrs : Headers) : AList fun _ : String => Option String :=
  attrs.entries.foldl (fun acc kv => acc.insert kv.1 (some kv.2)) ∅

def received (a : Assigned) (input : SendMessageInput) : ReceivedMessage :=
  { messageID := some a.messageID
    body := some input.messageBody
    receiptHandle := some a.receiptHandle
    messageAttributes := attributes input.messageAttributes }

end SQS

namespace RocketMQ

/-- `WithKeys` stores the keys, each followed by a blank, as the property `KEYS`. -/
def withKeys (props : Headers) (keys : List String) : Headers :=
  if keys = [] then props else withProperty props "KEYS" (String.join (keys.map fun key => key ++ " "))

def received (a : Assigned) (r : Record) : MessageExt :=
  { msgId := a.messageID
    topic := r.topic
    body := r.body
    properties := mergeHeaders (withKeys r.properties r.keys) a.properties
    reconsumeTimes := a.redeliveries
    bornTimestamp := a.publishTime }

end RocketMQ

/-- The drivers whose brokers carry headers of their own, with their configurations. -/
inductive Broker
  | kafka (cfg : KafkaConfig)
  | rabbitMQ (cfg : RabbitMQConfig)
  | nats (cfg : NATSConfig)
  | pulsar (cfg : PulsarConfig)
  | sqs (cfg : SQSConfig)
  | rocketMQ (cfg : RocketMQConfig)

namespace Broker

/-- The message that `Consume` builds from the record of a single `Publish`. -/
def carry (m : Message) (opts : List PublishOption) (a : Assigned) : Broker → Message
  | kafka cfg => Kafka.toMessage (Kafka.received a (Kafka.publish cfg m opts))
  | rabbitMQ cfg => RabbitMQ.toMessage (RabbitMQ.delivered a (RabbitMQ.publish cfg m opts))
  | nats cfg => NATS.toMessage cfg a.now (NATS.publish cfg m opts)
  | pulsar cfg => Pulsar.toMessage (Pulsar.received a (Pulsar.publish cfg m opts))
  | sqs cfg =>
    let input := SQS.publish cfg m opts
    SQS.toMessage a.now input.queueURL (SQS.received a input)
  | rocketMQ cfg => RocketMQ.toMessage (RocketMQ.received a (RocketMQ.publish cfg m opts))

end Broker

inductive Driver
  | redis (cfg : RedisConfig)
  | broker (b : Broker)

namespace Driver

/-- The message that `Consume` builds from what a single `Publish` wrote, if it wrote something. -/
def carry (codec : Redis.EnvelopeCodec) (m : Message) (opts : List PublishOption) (a : Assigned) :
    Driver → Option Message
  | redis cfg =>
    match Redis.publish codec cfg m opts with
    | .ok (written, _) => Redis.handOut codec cfg ⟨a.now, "", a.messageID⟩ .consume written
    | .error _ => none
  | broker b => some (b.carry m opts a)

end Driver

end MailBaby
