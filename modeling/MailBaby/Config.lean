import MailBaby.Lib.Text
import MailBaby.Queue.Message

/-!
# Queue configuration

The configuration sections that the queue drivers and the engine read, with their
validation and the topic name handed to the API servers.
-/

namespace MailBaby

open Lib

inductive QueueDriver
  | rabbitmq | kafka | redis | rocketmq | nats | pulsar | sqs | memory
  deriving DecidableEq, Repr

namespace QueueDriver

def name : QueueDriver → String
  | rabbitmq => "rabbitmq"
  | kafka => "kafka"
  | redis => "redis"
  | rocketmq => "rocketmq"
  | nats => "nats"
  | pulsar => "pulsar"
  | sqs => "sqs"
  | memory => "memory"

def all : List QueueDriver := [rabbitmq, kafka, redis, rocketmq, nats, pulsar, sqs, memory]

/-- The case of a `switch` on a driver name that is taken, if any. -/
def ofName (s : String) : Option QueueDriver := all.find? fun d => d.name = s

lemma ofName_eq_some {s : String} {d : QueueDriver} : ofName s = some d ↔ s = d.name := by
  constructor
  · intro h
    have := List.find?_some h
    simpa using (of_decide_eq_true this).symm
  · rintro rfl
    cases d <;> decide

lemma name_not_isSpace (d : QueueDriver) : ∀ c ∈ d.name.toList, isSpace c = false := by
  have hall : (d.name.toList.any isSpace) = false := by cases d <;> decide
  intro c hc
  simpa using List.any_eq_false.mp hall c hc

end QueueDriver

structure RabbitMQConfig where
  url : String := ""
  host : String := ""
  port : Int := 0
  queue : String := ""
  exchange : String := ""
  routingKey : String := ""
  autoAck : Bool := false
  prefetchCount : Int := 0

def RabbitMQConfig.validate (c : RabbitMQConfig) : Option GoError :=
  if c.url = "" ∧ c.host = "" then
    some ⟨"queue.rabbitmq: either url or host must be specified"⟩
  else if c.url = "" ∧ (c.port ≤ 0 ∨ c.port > 65535) then
    some ⟨"queue.rabbitmq: invalid port " ++ toString c.port⟩
  else if trimSpace c.queue = "" then
    some ⟨"queue.rabbitmq: queue name is required"⟩
  else none

structure KafkaConfig where
  brokers : List String := []
  topic : String := ""
  groupID : String := ""
  initialOffset : String := ""
  autoCommit : Bool := false

def KafkaConfig.validate (c : KafkaConfig) : Option GoError :=
  if c.brokers = [] then some ⟨"queue.kafka: brokers list cannot be empty"⟩
  else if trimSpace c.topic = "" then some ⟨"queue.kafka: topic is required"⟩
  else if trimSpace c.groupID = "" then some ⟨"queue.kafka: group_id is required"⟩
  else none

inductive RedisMode
  | stream | list | pubsub
  deriving DecidableEq, Repr

structure RedisConfig where
  addrs : List String := []
  host : String := ""
  mode : String := ""
  key : String := ""
  group : String := ""
  consumer : String := ""
  maxLen : Int := 0

/-- The mode in force: trimmed, lower case, with `stream` for an empty setting. -/
def RedisConfig.effectiveMode (c : RedisConfig) : Option RedisMode :=
  let mode := toLower (trimSpace c.mode)
  if mode = "" ∨ mode = "stream" then some .stream
  else if mode = "list" then some .list
  else if mode = "pubsub" then some .pubsub
  else none

def RedisConfig.validate (c : RedisConfig) : Option GoError :=
  if c.addrs = [] ∧ c.host = "" then some ⟨"queue.redis: addrs or host must be specified"⟩
  else if trimSpace c.key = "" then some ⟨"queue.redis: key/stream name is required"⟩
  else match c.effectiveMode with
    | some .stream =>
      if trimSpace c.group = "" then some ⟨"queue.redis: group is required when mode is 'stream'"⟩
      else none
    | some .list => none
    | some .pubsub => none
    | none => some ⟨"queue.redis: unsupported mode " ++ quote c.mode ++
        " (must be 'stream', 'list', or 'pubsub')"⟩

structure RocketMQConfig where
  nameServers : List String := []
  topic : String := ""
  group : String := ""

def RocketMQConfig.validate (c : RocketMQConfig) : Option GoError :=
  if c.nameServers = [] then some ⟨"queue.rocketmq: name_servers list cannot be empty"⟩
  else if trimSpace c.topic = "" then some ⟨"queue.rocketmq: topic is required"⟩
  else if trimSpace c.group = "" then some ⟨"queue.rocketmq: group is required"⟩
  else none

structure NATSConfig where
  servers : List String := []
  subject : String := ""
  queueGroup : String := ""
  jetStream : Bool := false

def NATSConfig.validate (c : NATSConfig) : Option GoError :=
  if c.servers = [] then some ⟨"queue.nats: servers list cannot be empty"⟩
  else if trimSpace c.subject = "" then some ⟨"queue.nats: subject is required"⟩
  else none

structure PulsarConfig where
  url : String := ""
  topic : String := ""
  subscriptionName : String := ""

def PulsarConfig.validate (c : PulsarConfig) : Option GoError :=
  if trimSpace c.url = "" then some ⟨"queue.pulsar: url is required"⟩
  else if trimSpace c.topic = "" then some ⟨"queue.pulsar: topic is required"⟩
  else if trimSpace c.subscriptionName = "" then
    some ⟨"queue.pulsar: subscription_name is required"⟩
  else none

structure SQSConfig where
  region : String := ""
  queueURL : String := ""
  endpoint : String := ""

def SQSConfig.validate (c : SQSConfig) : Option GoError :=
  if trimSpace c.queueURL = "" then some ⟨"queue.sqs: queue_url is required"⟩
  else if trimSpace c.region = "" ∧ c.endpoint = "" then
    some ⟨"queue.sqs: region is required when custom endpoint is not set"⟩
  else none

structure MemoryConfig where
  bufferSize : Int := 0

def MemoryConfig.validate (c : MemoryConfig) : Option GoError :=
  if c.bufferSize < 0 then some ⟨"queue.memory: buffer_size cannot be negative"⟩ else none

structure QueueConfig where
  driver : String := ""
  concurrency : Int := 0
  maxRetries : Int := 0
  retryInterval : Duration := 0
  batchSize : Int := 0
  rabbitmq : RabbitMQConfig := {}
  kafka : KafkaConfig := {}
  redis : RedisConfig := {}
  rocketmq : RocketMQConfig := {}
  nats : NATSConfig := {}
  pulsar : PulsarConfig := {}
  sqs : SQSConfig := {}
  memory : MemoryConfig := {}

namespace QueueConfig

def normalizedDriver (c : QueueConfig) : String := toLower (trimSpace c.driver)

def validate (c : QueueConfig) : Option GoError :=
  if c.normalizedDriver = "" then
    some ⟨"queue: driver is required (e.g. rabbitmq, kafka, redis, rocketmq, nats, pulsar, " ++
      "sqs, memory)"⟩
  else if c.concurrency ≤ 0 then
    some ⟨"queue: invalid concurrency " ++ toString c.concurrency ++ " (must be > 0)"⟩
  else match QueueDriver.ofName c.normalizedDriver with
    | some .rabbitmq => c.rabbitmq.validate
    | some .kafka => c.kafka.validate
    | some .redis => c.redis.validate
    | some .rocketmq => c.rocketmq.validate
    | some .nats => c.nats.validate
    | some .pulsar => c.pulsar.validate
    | some .sqs => c.sqs.validate
    | some .memory => c.memory.validate
    | none => some ⟨"queue: unsupported queue driver " ++ quote c.driver⟩

/-- `TopicName` lower-cases the driver but, unlike `Validate`, does not trim it. -/
def topicName (c : QueueConfig) : String :=
  match QueueDriver.ofName (toLower c.driver) with
  | some .rabbitmq => c.rabbitmq.queue
  | some .kafka => c.kafka.topic
  | some .redis => c.redis.key
  | some .rocketmq => c.rocketmq.topic
  | some .nats => c.nats.subject
  | some .pulsar => c.pulsar.topic
  | some .sqs => c.sqs.queueURL
  | some .memory => "memory"
  | none => "default"

end QueueConfig

structure AppConfig where
  name : String := ""
  shutdownTimeout : Duration := 0

def AppConfig.validate (c : AppConfig) : Option GoError :=
  if trimSpace c.name = "" then some ⟨"app: name cannot be empty"⟩ else none

structure Config where
  app : AppConfig := {}
  queue : QueueConfig := {}

def Config.validate (c : Config) : Option GoError := c.app.validate <|> c.queue.validate

lemma Config.queue_of_validate {c : Config} (h : c.validate = none) : c.queue.validate = none := by
  unfold Config.validate at h
  cases happ : c.app.validate with
  | none => simpa [happ] using h
  | some err => simp [happ] at h

end MailBaby
