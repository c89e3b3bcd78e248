import MailBaby.Config
import MailBaby.World

/-!
# RocketMQ driver

The record of `Publish` and the subscription callback of the consumer.
-/

namespace MailBaby.RocketMQ

open Lib

/-- A `primitive.Message`; `keys` is what `WithKeys` was given. -/
structure Record where
  topic : String
  body : Bytes
  properties : Headers
  keys : List String

/-- `WithProperty` ignores an empty name or value. -/
def withProperty (props : Headers) (key value : String) : Headers :=
  if key = "" ∨ value = "" then props else props.insert key value

def publish (cfg : RocketMQConfig) (m : Message) (opts : List PublishOption) : Record :=
  let po := publishOptions opts
  { topic := publishTopic cfg.topic po m
    body := m.payload
    properties := (m.headers.entries ++ po.headers.entries).foldl
      (fun acc kv => withProperty acc kv.1 kv.2) ∅
    keys := if po.key ≠ "" then [po.key] else if m.key ≠ "" then [m.key] else [] }

structure MessageExt where
  msgId : String := ""
  topic : String := ""
  body : Bytes := []
  properties : Headers := ∅
  reconsumeTimes : Nat := 0
  bornTimestamp : Int := 0

def toMessage (ext : MessageExt) : Message :=
  let msg : Message :=
    { id := ext.msgId
      topic := ext.topic
      payload := ext.body
      headers := ext.properties
      attempts := ext.reconsumeTimes + 1
      timestamp := ext.bornTimestamp * 1000000 }
  (msg.setAckFunc .returnNil).setNackFunc .returnNil

/-- The subscription callback: it stops at the first message whose handler fails and reports
success for the whole batch either way. -/
def onMessages (handler : Handler) : List MessageExt → Proc Unit
  | [] => pure ()
  | ext :: rest => do
    Eff.update (World.setMsg · (toMessage ext))
    match ← handler with
    | some _ => pure ()
    | none => onMessages handler rest

inductive ConsumeResult
  | consumeSuccess
  | consumeRetryLater
  deriving DecidableEq, Repr

/-- The subscription callback with its result, and the messages on which it has called the handler so far. -/
def callback (handler : Handler) (invoked : List MessageExt) :
    List MessageExt → Proc (ConsumeResult × List MessageExt)
  | [] => pure (.consumeSuccess, invoked)
  | ext :: rest => do
    Eff.update (World.setMsg · (toMessage ext))
    match ← handler with
    | some _ => pure (.consumeSuccess, invoked ++ [ext])
    | none => callback handler (invoked ++ [ext]) rest

def subscribeTopic (cfg : RocketMQConfig) (co : ConsumeOptions) : String := consumeTopic cfg.topic co

end MailBaby.RocketMQ
