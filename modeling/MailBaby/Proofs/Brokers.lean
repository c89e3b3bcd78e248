import MailBaby.Driver.Broker
import MailBaby.Proofs.RedisEnvelope

/-!
# Messages through the brokers

What is left of a message after a driver published it and consumed it again: its payload and headers,
its identifier, and for Kafka the records of a batch against those of single publishes.
-/

namespace MailBaby

open Lib

namespace Headers

/-- Neither names nor values are empty. -/
def Filled (h : Headers) : Prop := ∀ kv ∈ h.entries, kv.1 ≠ "" ∧ kv.2 ≠ ""

lemma lookup_insert_id (h : Headers) (own id name : String) :
    (if id ≠ "" then h.insert own id else h).lookup name =
      if id ≠ "" ∧ name = own then some id else h.lookup name := by
  by_cases hid : id = ""
  · rw [if_neg (not_not_intro hid), if_neg (not_and_of_not_left _ (not_not_intro hid))]
  · rw [if_pos hid]
    by_cases hname : name = own
    · rw [if_pos ⟨hid, hname⟩, hname, AList.lookup_insert]
    · rw [if_neg (not_and_of_not_right _ hname), AList.lookup_insert_ne hname]

end Headers

section Headers

variable (m : Message) (opts : List PublishOption) (a : Assigned) (name : String)

def merged : Option String := ((publishOptions opts).headers.lookup name).or (m.headers.lookup name)

namespace Kafka

lemma lookup_foldl_headerList (base h : Headers) :
    ((headerList h).foldl (fun acc kv => acc.insert kv.1 kv.2) base).lookup name =
      (h.lookup name).or (base.lookup name) := by
  rw [headerList, List.foldl_map]
  exact lookup_mergeHeaders base h name

lemma lookup_headers (cfg : KafkaConfig) :
    (toMessage (received a (publish cfg m opts))).headers.lookup name =
      if m.id ≠ "" ∧ name = "X-Message-ID" then some m.id else merged m opts name := by
  let written : Headers := (headerList m.headers ++ headerList (publishOptions opts).headers).foldl
    (fun acc kv => acc.insert kv.1 kv.2) ∅
  have hwritten : written.lookup name = merged m opts name := by
    dsimp only [written]
    rw [List.foldl_append, lookup_foldl_headerList, lookup_foldl_headerList, AList.lookup_empty,
      Option.or_none]
    rfl
  have hheaders : (toMessage (received a (publish cfg m opts))).headers =
      if m.id ≠ "" then written.insert "X-Message-ID" m.id else written := by
    change (publish cfg m opts).headers.foldl (fun acc kv => acc.insert kv.1 kv.2) (∅ : Headers) = _
    unfold publish
    dsimp only
    rw [List.foldl_append, apply_ite (List.foldl _ _)]
    rfl
  rw [hheaders, Headers.lookup_insert_id, hwritten]

end Kafka

namespace NATS

lemma lookup_firstValues (header : AList fun _ : String => List String) :
    (firstValues header).lookup name = (header.lookup name).bind List.head? := by
  unfold firstValues
  refine (lookup_foldl_entries (fun _ values => values.head?) ?_ header ∅ name).trans ?_
  · rintro acc ⟨key, values⟩ name
    cases values with
    | nil => simp
    | cons v values =>
      by_cases hname : name = key
      · simp [← hname]
      · simp [hname, AList.lookup_insert_ne hname]
  · rw [AList.lookup_empty, Option.or_none]

lemma lookup_headers (cfg : NATSConfig) (now : Time) :
    (toMessage cfg now (publish cfg m opts)).headers.lookup name =
      if m.id ≠ "" ∧ name = "Nats-Msg-Id" then some m.id else merged m opts name := by
  change (firstValues (publish cfg m opts).header).lookup name = _
  unfold publish
  dsimp only
  rw [lookup_firstValues, lookup_foldl_insert (fun v => [v]), AList.lookup_empty, Option.or_none,
    Option.bind_map]
  have hhead : (List.head? ∘ fun v : String => [v]) = some := rfl
  rw [hhead, Option.bind_fun_some, Headers.lookup_insert_id, lookup_mergeHeaders]
  rfl

end NATS

namespace Pulsar

lemma lookup_headers (cfg : PulsarConfig) :
    (toMessage (received a (publish cfg m opts))).headers.lookup name =
      if m.id ≠ "" ∧ name = "X-Message-ID" then some m.id else merged m opts name := by
  change (publish cfg m opts).properties.lookup name = _
  unfold publish
  dsimp only
  rw [Headers.lookup_insert_id, lookup_mergeHeaders]
  rfl

end Pulsar

namespace SQS

lemma lookup_stringValues (attrs : AList fun _ : String => Option String) :
    (stringValues attrs).lookup name = (attrs.lookup name).bind id := by
  unfold stringValues
  refine (lookup_foldl_entries (fun _ value => value) ?_ attrs ∅ name).trans ?_
  · rintro acc ⟨key, value⟩ name
    cases value with
    | none => simp
    | some v =>
      by_cases hname : name = key
      · simp [← hname]
      · simp [hname, AList.lookup_insert_ne hname]
  · rw [AList.lookup_empty, Option.or_none]
    rfl

lemma lookup_headers (cfg : SQSConfig) (queueURL : String) :
    (toMessage a.now queueURL (received a (publish cfg m opts))).headers.lookup name =
      if m.id ≠ "" ∧ name = "MessageId" then some m.id else merged m opts name := by
  change (stringValues (attributes (publish cfg m opts).messageAttributes)).lookup name = _
  unfold publish attributes
  dsimp only
  rw [lookup_stringValues, lookup_foldl_insert some, AList.lookup_empty, Option.or_none, Option.bind_map]
  have hsome : (id ∘ some : String → Option String) = some := rfl
  rw [hsome, Option.bind_fun_some, Headers.lookup_insert_id, lookup_mergeHeaders]
  rfl

end SQS

namespace RocketMQ

lemma lookup_withProperty (props : Headers) (key value : String) :
    (withProperty props key value).lookup name =
      if name = key ∧ key ≠ "" ∧ value ≠ "" then some value else props.lookup name := by
  unfold withProperty
  by_cases hempty : key = "" ∨ value = ""
  · rw [if_pos hempty, if_neg]
    rintro ⟨-, hkey, hvalue⟩
    exact hempty.elim hkey hvalue
  · obtain ⟨hkey, hvalue⟩ := not_or.mp hempty
    rw [if_neg hempty]
    by_cases hname : name = key
    · rw [if_pos ⟨hname, hkey, hvalue⟩, hname, AList.lookup_insert]
    · rw [if_neg (not_and_of_not_left _ hname), AList.lookup_insert_ne hname]

lemma lookup_foldl_withProperty {h : Headers} (hh : h.Filled) (base : Headers) :
    (h.entries.foldl (fun acc kv => withProperty acc kv.1 kv.2) base).lookup name =
      (h.lookup name).or (base.lookup name) := by
  have hstep : StoresEntry (fun (acc : Headers) (kv : Σ _ : String, String) => withProperty acc kv.1 kv.2)
      fun name value => if name ≠ "" ∧ value ≠ "" then some value else none := by
    intro acc kv name
    dsimp only
    rw [lookup_withProperty]
    by_cases hname : name = kv.1
    · by_cases hfilled : kv.1 ≠ "" ∧ kv.2 ≠ ""
      · rw [if_pos ⟨hname, hfilled⟩, if_pos hname, hname, if_pos hfilled, Option.some_or]
      · rw [if_neg (not_and_of_not_right _ hfilled), if_pos hname, hname, if_neg hfilled, Option.none_or]
    · rw [if_neg (not_and_of_not_left _ hname), if_neg hname]
  rw [lookup_foldl_entries _ hstep]
  cases hlookup : h.lookup name with
  | none => rfl
  | some value =>
    have hfilled := hh ⟨name, value⟩ (AList.mem_lookup_iff.mp hlookup)
    rw [Option.bind_some, if_pos hfilled]

lemma lookup_headers (cfg : RocketMQConfig) (hm : m.headers.Filled)
    (hpo : (publishOptions opts).headers.Filled) (hkeys : name ≠ "KEYS")
    (hbroker : name ∉ a.properties.keys) :
    (toMessage (received a (publish cfg m opts))).headers.lookup name = merged m opts name := by
  have hproperties : (publish cfg m opts).properties.lookup name = merged m opts name := by
    unfold publish
    dsimp only
    rw [List.foldl_append, lookup_foldl_withProperty name hpo, lookup_foldl_withProperty name hm,
      AList.lookup_empty, Option.or_none]
    rfl
  have hwithKeys : (withKeys (publish cfg m opts).properties (publish cfg m opts).keys).lookup name =
      (publish cfg m opts).properties.lookup name := by
    unfold withKeys
    split_ifs
    · rfl
    · rw [lookup_withProperty, if_neg (not_and_of_not_left _ hkeys)]
  change (mergeHeaders (withKeys (publish cfg m opts).properties (publish cfg m opts).keys)
    a.properties).lookup name = _
  rw [lookup_mergeHeaders, AList.lookup_eq_none.mpr hbroker, Option.none_or, hwithKeys, hproperties]

end RocketMQ

end Headers

namespace Broker

/-- SQS writes the identifier into an attribute and reads the broker's own; RocketMQ does not write
it at all. -/
def restoresID : Broker → Bool
  | sqs _ => false
  | rocketMQ _ => false
  | _ => true

variable {m : Message} (opts : List PublishOption) (a : Assigned)

lemma getD_of_own {headers : Headers} {own : String} (hid : m.id ≠ "") (h : headers.lookup own = some m.id)
    (fallback : String) :
    (if (headers.lookup own).getD "" = "" then fallback else (headers.lookup own).getD "") = m.id := by
  rw [h, Option.getD_some, if_neg hid]

lemma id_carry {b : Broker} (hid : m.id ≠ "") (hb : b.restoresID = true) : (b.carry m opts a).id = m.id := by
  cases b with
  | kafka cfg =>
    exact getD_of_own hid ((Kafka.lookup_headers m opts a _ cfg).trans (if_pos ⟨hid, rfl⟩)) _
  | rabbitMQ cfg => exact if_neg hid
  | nats cfg =>
    exact getD_of_own hid ((NATS.lookup_headers m opts _ cfg a.now).trans (if_pos ⟨hid, rfl⟩)) _
  | pulsar cfg =>
    exact getD_of_own hid ((Pulsar.lookup_headers m opts a _ cfg).trans (if_pos ⟨hid, rfl⟩)) _
  | sqs cfg => cases hb
  | rocketMQ cfg => cases hb

lemma id_carry_of_not_restoresID {b : Broker} (hb : b.restoresID = false) :
    (b.carry m opts a).id = a.messageID := by
  cases b with
  | sqs cfg => rfl
  | rocketMQ cfg => rfl
  | kafka cfg => cases hb
  | rabbitMQ cfg => cases hb
  | nats cfg => cases hb
  | pulsar cfg => cases hb

end Broker

namespace Driver

/-- Redis keeps the identifier in its envelope. -/
def restoresID : Driver → Bool
  | redis _ => true
  | broker b => b.restoresID

/-- Redis in one of the modes that unwrap the envelope, or another broker. -/
def Unwraps : Driver → Prop
  | redis cfg => cfg.effectiveMode = some .stream ∨ cfg.effectiveMode = some .list
  | broker _ => True

variable {jsonError : Bytes → GoError} {timeError : GoError} {zone : Int} {m : Message}
  {opts : List PublishOption} {cfg : RedisConfig}

lemma carry_redis (hmode : (redis cfg).Unwraps) (hattempts : -2 ^ 63 ≤ m.attempts ∧ m.attempts < 2 ^ 63)
    (a : Assigned) {result : Redis.Write × Option Duration}
    (hpub : Redis.publish (.json jsonError timeError zone) cfg m opts = .ok result) :
    ∃ got, (redis cfg).carry (.json jsonError timeError zone) m opts a = some got ∧ got.id = m.id := by
  obtain ⟨got, hout, hrestores⟩ :=
    Redis.restores_handOut hmode hattempts hpub ⟨a.now, "", a.messageID⟩
  refine ⟨got, ?_, hrestores.id_eq⟩
  simp only [carry, hpub, hout]

lemma id_of_carry_redis (hmode : (redis cfg).Unwraps)
    (hattempts : -2 ^ 63 ≤ m.attempts ∧ m.attempts < 2 ^ 63) {a : Assigned} {got : Message}
    (h : (redis cfg).carry (.json jsonError timeError zone) m opts a = some got) : got.id = m.id := by
  cases hpub : Redis.publish (.json jsonError timeError zone) cfg m opts with
  | error err =>
    simp only [carry, hpub] at h
    cases h
  | ok result =>
    obtain ⟨carried, hcarry, hid⟩ := carry_redis hmode hattempts a hpub
    cases hcarry.symm.trans h
    exact hid

lemma exists_publish_redis (hmode : (redis cfg).Unwraps)
    (htime : (Timestamp.format zone m.timestamp).isSome = true) (opts : List PublishOption) :
    ∃ written delay, Redis.publish (.json jsonError timeError zone) cfg m opts = .ok (written, delay) := by
  obtain ⟨time, htime⟩ := Option.isSome_iff_exists.mp htime
  obtain ⟨mode, heffective⟩ : ∃ mode, cfg.effectiveMode = some mode :=
    hmode.elim (fun h => ⟨_, h⟩) fun h => ⟨_, h⟩
  have htree : ((Redis.envelope cfg (publishOptions opts) m).toJSON zone).isSome = true := by
    have hstamp : (Redis.envelope cfg (publishOptions opts) m).timestamp = m.timestamp := rfl
    rw [Redis.MessageEnvelope.toJSON, Redis.MessageEnvelope.tree, hstamp, htime]
    rfl
  obtain ⟨raw, hraw⟩ := Option.isSome_iff_exists.mp htree
  have hmarshal : (Redis.EnvelopeCodec.json jsonError timeError zone).marshal
      (Redis.envelope cfg (publishOptions opts) m) = .ok raw := by
    simp only [Redis.EnvelopeCodec.json, Redis.EnvelopeCodec.standard, hraw]
  exact ⟨_, Redis.exists_publish opts hmarshal heffective⟩

end Driver

namespace Kafka

/-- Equal up to the order of headers with different names. -/
structure Record.Equivalent (r s : Record) : Prop where
  topic_eq : r.topic = s.topic
  key_eq : r.key = s.key
  value_eq : r.value = s.value
  time_eq : r.time = s.time
  headers_eq : ∀ name, r.headers.filter (fun h => h.1 = name) = s.headers.filter fun h => h.1 = name

lemma publishBatch_eq (cfg : KafkaConfig) (ms : List Message) (opts : List PublishOption) :
    publishBatch cfg (ms.map some) opts = ms.map fun m =>
      { publish cfg m opts with
        key := m.key
        headers := headerList m.headers ++ headerList (publishOptions opts).headers } := by
  rw [publishBatch, List.filterMap_map, ← List.filterMap_eq_map]
  rfl

lemma equivalent_iff (cfg : KafkaConfig) (m : Message) (opts : List PublishOption) :
    Record.Equivalent
      { publish cfg m opts with
        key := m.key
        headers := headerList m.headers ++ headerList (publishOptions opts).headers }
      (publish cfg m opts) ↔
    m.id = "" ∧ ((publishOptions opts).key = "" ∨ (publishOptions opts).key = m.key) := by
  constructor
  · intro h
    constructor
    · -- the single publish writes one more header of this name
      by_contra hid
      have hheaders := congrArg List.length (h.headers_eq "X-Message-ID")
      simp only [publish, if_pos hid, List.filter_append, List.length_append, List.filter_cons,
        List.filter_nil, decide_true, ite_true, List.length_cons, List.length_nil] at hheaders
      omega
    · have hkey := h.key_eq
      simp only [publish] at hkey
      by_cases hpo : (publishOptions opts).key = ""
      · exact .inl hpo
      · rw [if_pos hpo] at hkey
        exact .inr hkey.symm
  · rintro ⟨hid, hkey⟩
    refine ⟨rfl, ?_, rfl, rfl, ?_⟩
    · change m.key = if (publishOptions opts).key ≠ "" then (publishOptions opts).key else m.key
      rcases hkey with hkey | hkey
      · rw [if_neg (not_not_intro hkey)]
      · rw [hkey, ite_self]
    · intro name
      simp only [publish, hid, ne_eq, not_true_eq_false, if_false, List.append_nil]

end Kafka

end MailBaby

namespace MailBaby.Proofs

open Lib

/-- The consumer hands out the identifier that was published with every driver but those of SQS and
RocketMQ, which hand out the one that the broker assigned. -/
theorem message_id_restored_iff (jsonError : Bytes → GoError) (timeError : GoError) (zone : Int)
    {d : Driver} (hd : d.Unwraps) {m : Message} (hid : m.id ≠ "")
    (hattempts : -2 ^ 63 ≤ m.attempts ∧ m.attempts < 2 ^ 63) (opts : List PublishOption) :
    ((∀ a got, d.carry (.json jsonError timeError zone) m opts a = some got → got.id = m.id) ↔
      d.restoresID = true) ∧
    ((Timestamp.format zone m.timestamp).isSome = true →
      ∀ a, (d.carry (.json jsonError timeError zone) m opts a).isSome = true) := by
  cases d with
  | redis cfg =>
    refine ⟨iff_of_true (fun a got h => Driver.id_of_carry_redis hd hattempts h) rfl, ?_⟩
    intro htime a
    obtain ⟨written, delay, hpub⟩ := Driver.exists_publish_redis hd htime opts
    obtain ⟨got, hcarry, -⟩ := Driver.carry_redis hd hattempts a hpub
    exact Option.isSome_iff_exists.mpr ⟨got, hcarry⟩
  | broker b =>
    refine ⟨⟨fun h => ?_, fun hb => ?_⟩, fun _ _ => rfl⟩
    · by_contra hb
      -- a broker is free to assign another identifier
      have hother := h { messageID := m.id ++ "x" } _ rfl
      rw [Broker.id_carry_of_not_restoresID opts _ (eq_false_of_ne_true hb)] at hother
      have hlen := congrArg String.length hother
      simp at hlen
    · intro a got h
      cases h
      exact Broker.id_carry opts a hid hb

theorem message_id_restored_iff_list :
    (Driver.redis (redisConfig "list")).Unwraps ∧ redisMail.id ≠ "" ∧
      (∀ a got, (Driver.redis (redisConfig "list")).carry (.json (fun _ => ⟨"json"⟩) ⟨"time"⟩ 60) redisMail [] a =
        some got → got.id = "42") ∧
      ∀ a, ((Driver.redis (redisConfig "list")).carry (.json (fun _ => ⟨"json"⟩) ⟨"time"⟩ 60)
        redisMail [] a).isSome = true := by
  have hlist : (Driver.redis (redisConfig "list")).Unwraps := .inr rfl
  have hid : redisMail.id ≠ "" := by decide
  obtain ⟨hiff, hsome⟩ := message_id_restored_iff (fun _ => ⟨"json"⟩) ⟨"time"⟩ 60 hlist hid (by decide) []
  exact ⟨hlist, hid, hiff.mpr rfl, hsome (by decide +kernel)⟩

def labelledMail : Message :=
  { id := "42", payload := [104, 105], headers := (∅ : Headers).insert "tenant" "a", key := "k" }

theorem broker_id_replaces_message_id :
    labelledMail.id = "42" ∧ ∀ codec,
    ((Driver.broker (.sqs {})).carry codec labelledMail [] { messageID := "a1" }).map (·.id) = some "a1" ∧
    ((Driver.broker (.rocketMQ {})).carry codec labelledMail [] { messageID := "a1" }).map (·.id) =
      some "a1" :=
  ⟨rfl, fun _ => ⟨rfl, rfl⟩⟩

open Kafka in
/-- A batch hands the writer the records of single publishes exactly if no message has an identifier
and the option key, if there is one, is every message's own. -/
theorem kafka_batch_eq_singles_iff (cfg : KafkaConfig) (ms : List Message) (opts : List PublishOption) :
    List.Forall₂ Record.Equivalent (publishBatch cfg (ms.map some) opts)
        (ms.map fun m => publish cfg m opts) ↔
      ∀ m ∈ ms, m.id = "" ∧ ((publishOptions opts).key = "" ∨ (publishOptions opts).key = m.key) := by
  rw [publishBatch_eq, List.forall₂_map_left_iff, List.forall₂_map_right_iff, List.forall₂_same]
  exact forall₂_congr fun m _ => equivalent_iff cfg m opts

def mailTopic : KafkaConfig := { brokers := ["kafka:9092"], topic := "mail", groupID := "mail" }

open Kafka in
theorem kafka_batch_drops_id :
    ¬List.Forall₂ Record.Equivalent (publishBatch mailTopic [some labelledMail] [.withKey "tenant-7"])
      [publish mailTopic labelledMail [.withKey "tenant-7"]] ∧
    (publishBatch mailTopic [some labelledMail] [.withKey "tenant-7"]).map
        (fun r => (r.key, r.headers)) = [("k", [("tenant", "a")])] ∧
    (publish mailTopic labelledMail [.withKey "tenant-7"]).key = "tenant-7" ∧
    (publish mailTopic labelledMail [.withKey "tenant-7"]).headers =
      [("tenant", "a"), ("X-Message-ID", "42")] := by
  refine ⟨?_, rfl, rfl, rfl⟩
  rintro (_ | ⟨hfirst, -⟩)
  exact absurd hfirst.key_eq (by decide)

end MailBaby.Proofs
