import MailBaby.Config

/-!
# Opening a queue

`queue.New` looks the configured driver up in the registry and hands the configuration to
its factory. Connecting to the broker is not part of the model: an opened queue is its
driver together with the configuration it was opened with.
-/

namespace MailBaby

open Lib

structure Queue where
  driver : QueueDriver
  cfg : QueueConfig

namespace Queue

def name (q : Queue) : String :=
  match q.driver with
  | .rabbitmq => q.cfg.rabbitmq.queue
  | .kafka => q.cfg.kafka.topic
  | .redis => q.cfg.redis.key
  | .rocketmq => q.cfg.rocketmq.topic
  | .nats => q.cfg.nats.subject
  | .pulsar => q.cfg.pulsar.topic
  | .sqs => q.cfg.sqs.queueURL
  | .memory => "memory_default"

def errDriverNotFound : GoError := ⟨"queue: driver not found or not registered"⟩

/-- A factory's own check of its section of the configuration; the memory queue has none. -/
def validateSection (driver : QueueDriver) (cfg : QueueConfig) : Option GoError :=
  match driver with
  | .rabbitmq => cfg.rabbitmq.validate
  | .kafka => cfg.kafka.validate
  | .redis => cfg.redis.validate
  | .rocketmq => cfg.rocketmq.validate
  | .nats => cfg.nats.validate
  | .pulsar => cfg.pulsar.validate
  | .sqs => cfg.sqs.validate
  | .memory => none

/-- The driver that `New` looks up; an empty setting selects the memory queue. -/
def driverName (cfg : QueueConfig) : String :=
  if cfg.normalizedDriver = "" then QueueDriver.memory.name else cfg.normalizedDriver

def new (cfg : QueueConfig) : Except GoError Queue :=
  match QueueDriver.ofName (driverName cfg) with
  | none => .error (errDriverNotFound.wrap ⟨"driver " ++ quote (driverName cfg) ++
      " is not registered (available: [kafka memory nats pulsar rabbitmq redis rocketmq sqs])"⟩)
  | some driver =>
    match validateSection driver cfg with
    | some err => .error ⟨driver.name ++ ": config validation failed: " ++ err.text⟩
    | none => .ok ⟨driver, cfg⟩

lemma ofName_of_validate {cfg : QueueConfig} (h : cfg.validate = none) :
    cfg.normalizedDriver ≠ "" ∧ ∃ driver, QueueDriver.ofName cfg.normalizedDriver = some driver ∧
      validateSection driver cfg = none := by
  unfold QueueConfig.validate at h
  split_ifs at h with hempty hconc
  refine ⟨hempty, ?_⟩
  cases hd : QueueDriver.ofName cfg.normalizedDriver with
  | none =>
    rw [hd] at h
    cases h
  | some driver =>
    rw [hd] at h
    refine ⟨driver, rfl, ?_⟩
    cases driver with
    | memory => rfl
    | rabbitmq | kafka | redis | rocketmq | nats | pulsar | sqs => exact h

lemma new_of_validate {cfg : QueueConfig} (h : cfg.validate = none) :
    ∃ driver : QueueDriver, cfg.normalizedDriver = driver.name ∧ validateSection driver cfg = none ∧
      new cfg = .ok ⟨driver, cfg⟩ := by
  obtain ⟨hempty, driver, hd, hsection⟩ := ofName_of_validate h
  have hname : driverName cfg = cfg.normalizedDriver := if_neg hempty
  refine ⟨driver, QueueDriver.ofName_eq_some.mp hd, hsection, ?_⟩
  unfold new
  rw [hname, hd]
  dsimp only
  rw [hsection]

end Queue

end MailBaby
