import MailBaby.Lib.Wildcard
import MailBaby.Config
import MailBaby.World

/-!
# RabbitMQ driver

The topology that `New` declares, the record built by `Publish` with its address, and the
per-delivery function of the consumer. Topic-exchange matching follows AMQP: a binding key
is a dotted pattern in which a star stands for one word and a hash for any number of them.
-/

namespace MailBaby.RabbitMQ

open Lib

structure Publishing where
  exchange : String
  routingKey : String
  headers : Headers
  contentType : String
  messageId : String
  timestamp : Time
  body : Bytes

def publish (cfg : RabbitMQConfig) (m : Message) (opts : List PublishOption) : Publishing :=
  let po := publishOptions opts
  let table := mergeHeaders m.headers po.headers
  { exchange := cfg.exchange
    routingKey := if po.key ≠ "" then po.key else publishTopic cfg.routingKey po m
    headers := table
    contentType := match table.lookup "Content-Type" with
      | some ct => if ct ≠ "" then ct else "application/octet-stream"
      | none => "application/octet-stream"
    messageId := m.id
    timestamp := m.timestamp
    body := m.payload }

/-- The key with which `setupTopology` binds the queue to a configured exchange. -/
def bindingKey (cfg : RabbitMQConfig) : String :=
  if cfg.routingKey = "" then "#" else cfg.routingKey

def segment (word : String) : Segment String :=
  if word = "*" then .one else if word = "#" then .any else .word word

def topicMatches (binding key : String) : Bool :=
  Segment.accepts ((dottedWords binding).map segment) (dottedWords key)

/-- Whether the broker puts a record on a queue of the declared topology. The default exchange
routes by queue name; the declared exchange has the one binding of `cfg.queue`, and what it
does not match is dropped. -/
def routed (cfg : RabbitMQConfig) (p : Publishing) (queueName : String) : Bool :=
  if p.exchange = "" then decide (p.routingKey = queueName)
  else decide (queueName = cfg.queue) && topicMatches (bindingKey cfg) p.routingKey

/-- An `amqp.Delivery`; header values are given as formatted by `%v`. -/
structure Delivery where
  messageId : String := ""
  routingKey : String := ""
  body : Bytes := []
  headers : Headers := ∅
  timestamp : Time := 0
  deliveryTag : Nat := 0

def toMessage (d : Delivery) : Message :=
  let msg : Message :=
    { id := if d.messageId = "" then "amqp-" ++ toString d.deliveryTag else d.messageId
      topic := d.routingKey
      payload := d.body
      headers := d.headers
      timestamp := d.timestamp
      attempts := 1 }
  (msg.setAckFunc (.deliveryAck d.deliveryTag)).setNackFunc (.deliveryNack d.deliveryTag)

/-- The flag with which `Consume` opens its subscription: the broker then acknowledges by itself. -/
def subscribeAutoAck (cfg : RabbitMQConfig) (co : ConsumeOptions) : Bool := cfg.autoAck || co.autoAck

def processDelivery (cfg : RabbitMQConfig) (co : ConsumeOptions) (handler : Handler)
    (d : Delivery) : Proc Unit :=
  deliver (co.autoAck || cfg.autoAck) handler (toMessage d)

def consumeQueue (cfg : RabbitMQConfig) (co : ConsumeOptions) : String :=
  consumeTopic cfg.queue co

end MailBaby.RabbitMQ
