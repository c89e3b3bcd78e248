import MailBaby.Core.Send
import MailBaby.Driver.Kafka
import MailBaby.Driver.Memory
import MailBaby.Driver.NATS
import MailBaby.Driver.Pulsar
import MailBaby.Driver.RabbitMQ
import MailBaby.Driver.Redis
import MailBaby.Driver.RocketMQ
import MailBaby.Driver.SQS
import MailBaby.Runtime.Engine

/-!
# The application

How `NewApp` wires queue, engine and send service, where a published message ends up, and
one type for the deliveries of the drivers that settle each message on its own.
-/

namespace MailBaby

open Lib

/-! ### Wiring -/

/-- The parts of `NewApp`'s result that handle mail; the queue name is what the API servers
put on enqueued messages. -/
structure App where
  queue : Queue
  engine : Engine
  queueName : String

/-- `NewApp`, given that the logger, tracer, sender, metrics and servers come up. The engine
gets no options. -/
def newApp (cfg : Config) : Except GoError App :=
  match Queue.new cfg.queue with
  | .error err => .error ⟨"cmd: failed to initialize queue driver " ++ quote cfg.queue.driver ++
      ": " ++ err.text⟩
  | .ok q =>
    .ok { queue := q, engine := Engine.new q (some cfg) [], queueName := cfg.queue.topicName }

/-! ### Destinations -/

namespace Queue

/-- The topic, key, subject or URL that `Publish` addresses. The memory queue has a single
channel, named after the queue. -/
def publishAddress (q : Queue) (m : Message) (opts : List PublishOption) : String :=
  match q.driver with
  | .rabbitmq => (RabbitMQ.publish q.cfg.rabbitmq m opts).routingKey
  | .kafka => (Kafka.publish q.cfg.kafka m opts).topic
  | .redis => (Redis.envelope q.cfg.redis (publishOptions opts) m).topic
  | .rocketmq => (RocketMQ.publish q.cfg.rocketmq m opts).topic
  | .nats => (NATS.publish q.cfg.nats m opts).subject
  | .pulsar => (Pulsar.publish q.cfg.pulsar m opts).topic
  | .sqs => (SQS.publish q.cfg.sqs m opts).queueURL
  | .memory => q.name

def consumeAddress (q : Queue) (co : ConsumeOptions) : String :=
  match q.driver with
  | .rabbitmq => RabbitMQ.consumeQueue q.cfg.rabbitmq co
  | .kafka => Kafka.readerTopic q.cfg.kafka co
  | .redis => Redis.consumeKey q.cfg.redis co
  | .rocketmq => RocketMQ.subscribeTopic q.cfg.rocketmq co
  | .nats => NATS.consumeSubject q.cfg.nats co
  | .pulsar => Pulsar.consumerTopic q.cfg.pulsar
  | .sqs => SQS.consumeURL q.cfg.sqs co
  | .memory => q.name

/-- Whether a published message gets to the place that a consumer with options `co` reads. -/
def routes (q : Queue) (m : Message) (opts : List PublishOption) (co : ConsumeOptions) : Bool :=
  match q.driver with
  | .rabbitmq => RabbitMQ.routed q.cfg.rabbitmq (RabbitMQ.publish q.cfg.rabbitmq m opts)
      (q.consumeAddress co)
  | _ => decide (q.publishAddress m opts = q.consumeAddress co)

end Queue

/-! ### Deliveries -/

inductive Delivery
  | memory (m : Message)
  | rabbitmq (d : RabbitMQ.Delivery)
  | kafka (r : Kafka.Record)
  | redisStream (codec : Redis.EnvelopeCodec) (now : Time) (stream group : String) (x : Redis.XMessage)
  | nats (now : Time) (n : NATS.Msg)
  | pulsar (p : Pulsar.ReceivedMessage)
  | sqs (now : Time) (queueURL : String) (s : SQS.ReceivedMessage)

namespace Delivery

variable (cfg : QueueConfig) (co : ConsumeOptions) (handler : Handler)

def process : Delivery → Proc Unit
  | memory m => Memory.processMessage co handler m
  | rabbitmq d => RabbitMQ.processDelivery cfg.rabbitmq co handler d
  | kafka r => Kafka.processMessage cfg.kafka co handler r
  | redisStream codec now stream group x =>
    Redis.processStreamMessage codec now stream group co handler x
  | nats now n => NATS.processMsg cfg.nats now co handler n
  | pulsar p => Pulsar.processMessage co handler p
  | sqs now queueURL s => SQS.processMessage now queueURL co handler s

def message : Delivery → Message
  | memory m => Memory.consumed m
  | rabbitmq d => RabbitMQ.toMessage d
  | kafka r => Kafka.toMessage r
  | redisStream codec now stream group x => Redis.streamMessage codec now stream group x
  | nats now n => NATS.toMessage cfg.nats now n
  | pulsar p => Pulsar.toMessage p
  | sqs now queueURL s => SQS.toMessage now queueURL s

def autoAck : Delivery → Bool
  | rabbitmq _ => co.autoAck || cfg.rabbitmq.autoAck
  | kafka _ => co.autoAck || cfg.kafka.autoCommit
  | _ => co.autoAck

lemma process_eq (d : Delivery) :
    d.process cfg co handler = deliver (d.autoAck cfg co) handler (d.message cfg) := by
  cases d <;> rfl

lemma ackFn_isSome (d : Delivery) : (d.message cfg).ackFn.isSome = true := by
  cases d <;> rfl

lemma acknowledged_eq (d : Delivery) :
    (d.message cfg).acknowledged = match d with
      | memory m => m.acknowledged
      | _ => false := by
  cases d with
  | redisStream codec now stream group x =>
    simp only [message, Redis.streamMessage, Message.setAckFunc, Message.setNackFunc]
    split
    · rfl
    · rfl
    · split <;> rfl
  | _ => rfl

end Delivery

end MailBaby
