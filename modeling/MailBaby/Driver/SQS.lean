import MailBaby.Config
import MailBaby.World

/-!
# SQS driver

The request of `Publish` and the per-message function of the consumer.
-/

namespace MailBaby.SQS

open Lib

/-- A `sqs.SendMessageInput`; attributes are string valued. -/
structure SendMessageInput where
  queueURL : String
  messageBody : Bytes
  messageAttributes : Headers
  delaySeconds : Int
  messageGroupID : Option String

/-- Only the option topic can redirect a message: unlike the other drivers, `Publish` does not
read the message's own topic. -/
def publish (cfg : SQSConfig) (m : Message) (opts : List PublishOption) : SendMessageInput :=
  let po := publishOptions opts
  let attrs := mergeHeaders m.headers po.headers
  { queueURL := if po.topic ≠ "" then po.topic else cfg.queueURL
    messageBody := m.payload
    messageAttributes := if m.id ≠ "" then attrs.insert "MessageId" m.id else attrs
    delaySeconds :=
      if po.delay > 0 then po.delay.tdiv 1000000000
      else if m.delay > 0 then m.delay.tdiv 1000000000
      else 0
    messageGroupID := if po.key ≠ "" then some po.key else if m.key ≠ "" then some m.key else none }

structure ReceivedMessage where
  messageID : Option String := none
  body : Option Bytes := none
  receiptHandle : Option String := none
  messageAttributes : AList fun _ : String => Option String := ∅

def stringValues (attrs : AList fun _ : String => Option String) : Headers :=
  attrs.entries.foldl (fun acc kv => match kv.2 with
    | some v => acc.insert kv.1 v
    | none => acc) ∅

def toMessage (now : Time) (queueURL : String) (s : ReceivedMessage) : Message :=
  let receiptHandle := s.receiptHandle.getD ""
  let msg : Message :=
    { id := s.messageID.getD ""
      topic := queueURL
      payload := s.body.getD []
      headers := stringValues s.messageAttributes
      timestamp := now
      attempts := 1 }
  (msg.setAckFunc (.deleteMessage queueURL receiptHandle)).setNackFunc
    (.changeVisibility queueURL receiptHandle)

def processMessage (now : Time) (queueURL : String) (co : ConsumeOptions) (handler : Handler)
    (s : ReceivedMessage) : Proc Unit :=
  deliver co.autoAck handler (toMessage now queueURL s)

def consumeURL (cfg : SQSConfig) (co : ConsumeOptions) : String := consumeTopic cfg.queueURL co

end MailBaby.SQS
