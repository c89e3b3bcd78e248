import MailBaby.Config
import MailBaby.World

/-!
# NATS driver

The record of `Publish` and the per-message function of the consumer.
-/

namespace MailBaby.NATS

open Lib

/-- A `nats.Msg`; a header may carry several values. -/
structure Msg where
  subject : String := ""
  data : Bytes := []
  header : AList fun _ : String => List String := ∅

def publish (cfg : NATSConfig) (m : Message) (opts : List PublishOption) : Msg :=
  let po := publishOptions opts
  let headers := mergeHeaders m.headers po.headers
  let headers := if m.id ≠ "" then headers.insert "Nats-Msg-Id" m.id else headers
  { subject := publishTopic cfg.subject po m
    data := m.payload
    header := headers.entries.foldl (fun acc kv => acc.insert kv.1 [kv.2]) ∅ }

def firstValues (header : AList fun _ : String => List String) : Headers :=
  header.entries.foldl (fun acc kv => match kv.2 with
    | v :: _ => acc.insert kv.1 v
    | [] => acc) ∅

def toMessage (cfg : NATSConfig) (now : Time) (n : Msg) : Message :=
  let headers := firstValues n.header
  let msgID := (headers.lookup "Nats-Msg-Id").getD ""
  let msg : Message :=
    { id := if msgID = "" then "nats-" ++ toString now else msgID
      topic := n.subject
      payload := n.data
      headers := headers
      timestamp := now
      attempts := 1 }
  (msg.setAckFunc .natsAck).setNackFunc (.natsNak cfg.jetStream)

def processMsg (cfg : NATSConfig) (now : Time) (co : ConsumeOptions) (handler : Handler) (n : Msg) :
    Proc Unit :=
  deliver co.autoAck handler (toMessage cfg now n)

def consumeSubject (cfg : NATSConfig) (co : ConsumeOptions) : String := consumeTopic cfg.subject co

end MailBaby.NATS
