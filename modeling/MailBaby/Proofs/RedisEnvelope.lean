import MailBaby.Driver.Redis

/-!
# The Redis envelope

What `Publish` writes in each mode against what the consumers make of it. The stream and list
consumers unwrap the envelope; the pub/sub loop and `Receive` hand out its JSON text.
-/

namespace MailBaby.Redis

open Lib

namespace MessageEnvelope

def entries (env : MessageEnvelope) (time : List Char) : List (String × Json.Tree) :=
  [(idField.name, .str env.id.toList), (topicField.name, .str env.topic.toList),
    (payloadField.name, .str (Base64.encode env.payload))] ++
  (if env.headers.entries = [] then [] else [(headersField.name, .texts env.headers)]) ++
  [(timestampField.name, .str time), (attemptsField.name, .int env.attempts)]

lemma exists_entries_of_toJSON {zone : Int} {env : MessageEnvelope} {raw : Bytes}
    (h : env.toJSON zone = some raw) : ∃ time, Timestamp.format zone env.timestamp = some time ∧
      raw = utf8 (Json.Tree.obj (env.entries time)).render := by
  obtain ⟨t, ht, rfl⟩ := Option.map_eq_some_iff.mp h
  obtain ⟨time, htime, rfl⟩ := Option.map_eq_some_iff.mp ht
  exact ⟨time, htime, rfl⟩

lemma depth_entries (env : MessageEnvelope) (time : List Char) :
    (Json.Tree.obj (env.entries time)).depth ≤ Json.maxNestingDepth := by
  have hle : (Json.Tree.obj (env.entries time)).depth ≤ 2 := by
    unfold entries
    split_ifs <;>
      simp only [List.cons_append, List.nil_append, Json.Tree.depth, Json.Tree.depths, Json.Tree.fieldDepth,
        Json.Tree.depth_texts] <;> decide
  exact Nat.le_trans hle (by decide)

lemma foldlM_store_cons {f : StructField MessageEnvelope} (hf : f ∈ fields) {s t : MessageEnvelope} {v : Json}
    (hrun : f.run s v = some t) (rest : List (String × Json)) :
    ((f.name, v) :: rest).foldlM (StructField.store fields) s = rest.foldlM (StructField.store fields) t := by
  rw [List.foldlM_cons, StructField.store_of_mem nodup_fields hf, hrun]
  rfl

section Fields

variable (env s : MessageEnvelope)

lemma run_idField : idField.run s (.str (Json.literal env.id.toList)) = some { s with id := env.id } := by
  change (Decoder.string.run s.id _).map _ = _
  rw [Decoder.run_string, String.ofList_toList, Option.map_some]

lemma run_topicField :
    topicField.run s (.str (Json.literal env.topic.toList)) = some { s with topic := env.topic } := by
  change (Decoder.string.run s.topic _).map _ = _
  rw [Decoder.run_string, String.ofList_toList, Option.map_some]

lemma run_payloadField : payloadField.run s (.str (Json.literal (Base64.encode env.payload))) =
    some { s with payload := env.payload } := by
  change (Decoder.bytes.run s.payload _).map _ = _
  rw [Decoder.run_bytes, Option.map_some]

lemma run_timestampField {zone : Int} {time : List Char}
    (h : Timestamp.format zone env.timestamp = some time) :
    timestampField.run s (.str (Json.literal time)) = some { s with timestamp := env.timestamp } := by
  change (Decoder.time.run s.timestamp _).map _ = _
  rw [Decoder.run_time h, Option.map_some]

lemma run_attemptsField (h : -2 ^ 63 ≤ env.attempts ∧ env.attempts < 2 ^ 63) :
    attemptsField.run s (.num (Json.intText env.attempts)) = some { s with attempts := env.attempts } := by
  change (Decoder.int64.run s.attempts _).map _ = _
  rw [Decoder.run_int64 h, Option.map_some]

end Fields

lemma store_headers (env : MessageEnvelope) :
    ∃ headers : Headers, (∀ name, headers.lookup name = env.headers.lookup name) ∧
      ∀ s : MessageEnvelope, s.headers = ∅ →
        (Json.Tree.toJsonFields (if env.headers.entries = [] then []
          else [(headersField.name, .texts env.headers)])).foldlM (StructField.store fields) s =
            some { s with headers := headers } := by
  by_cases hempty : env.headers.entries = []
  · refine ⟨∅, ?_, ?_⟩
    · intro name
      have hnone : env.headers = ∅ := AList.ext hempty
      rw [hnone]
    · intro s hs
      rw [if_pos hempty, ← hs]
      rfl
  · obtain ⟨headers, hheaders, hlookup⟩ := Decoder.run_texts env.headers
    refine ⟨headers, hlookup, ?_⟩
    intro s hs
    have hrun : headersField.run s (Json.Tree.texts env.headers).toJson =
        some { s with headers := headers } := by
      change ((Decoder.map .string "").run s.headers _).map _ = _
      rw [hs, hheaders, Option.map_some]
    rw [if_neg hempty, Json.Tree.toJsonFields, Json.Tree.toJsonField,
      foldlM_store_cons (by simp [fields]) hrun]
    rfl

theorem fromJSON_toJSON {zone : Int} {env : MessageEnvelope} {raw : Bytes} (h : env.toJSON zone = some raw)
    (hattempts : -2 ^ 63 ≤ env.attempts ∧ env.attempts < 2 ^ 63) :
    ∃ headers : Headers, fromJSON raw = some { env with headers := headers } ∧
      ∀ name, headers.lookup name = env.headers.lookup name := by
  obtain ⟨time, htime, rfl⟩ := exists_entries_of_toJSON h
  have hread : fromJSON (utf8 (Json.Tree.obj (env.entries time)).render) =
      (Json.Tree.toJsonFields (env.entries time)).foldlM (StructField.store fields) zero := by
    rw [fromJSON, Decoder.unmarshal, Json.Tree.parse_render (depth_entries env time), Json.Tree.toJson]
    rfl
  obtain ⟨headers, hlookup, hheaders⟩ := store_headers env
  refine ⟨headers, ?_, hlookup⟩
  rw [hread, entries, Json.Tree.toJsonFields_append, Json.Tree.toJsonFields_append, List.append_assoc]
  simp only [List.cons_append, List.nil_append, Json.Tree.toJsonFields, Json.Tree.toJsonField, Json.Tree.toJson]
  rw [foldlM_store_cons (by simp [fields]) (run_idField env _),
    foldlM_store_cons (by simp [fields]) (run_topicField env _),
    foldlM_store_cons (by simp [fields]) (run_payloadField env _), List.foldlM_append, hheaders _ rfl]
  change List.foldlM _ _ _ = _
  rw [foldlM_store_cons (by simp [fields]) (run_timestampField env _ htime),
    foldlM_store_cons (by simp [fields]) (run_attemptsField env _ hattempts)]
  rfl

end MessageEnvelope

/-- The assumptions on `encoding/json` for one envelope: the text decodes to it again, and since
it carries the payload in base64 it is longer than the payload. -/
structure EnvelopeCodec.RoundTrips (codec : EnvelopeCodec) (env : MessageEnvelope) (raw : Bytes) :
    Prop where
  marshal_eq : codec.marshal env = .ok raw
  unmarshal_eq : codec.unmarshal raw = .ok env
  payload_lt : env.payload.length < raw.length

/-- `got` is the published message: its payload, its identifier, and its headers overridden by
those of the options. -/
structure Restores (po : PublishOptions) (m got : Message) : Prop where
  payload_eq : got.payload = m.payload
  id_eq : got.id = m.id
  headers_eq : ∀ key, got.headers.lookup key = (po.headers.lookup key).or (m.headers.lookup key)

variable {codec : EnvelopeCodec} {cfg : RedisConfig} {po : PublishOptions} {m : Message} {raw : Bytes}

lemma not_restores_raw (h : codec.RoundTrips (envelope cfg po m) raw) {got : Message}
    (hp : got.payload = raw) : ¬Restores po m got := by
  intro hrestores
  have hlen : m.payload.length < raw.length := h.payload_lt
  rw [← hp, hrestores.payload_eq] at hlen
  exact Nat.lt_irrefl _ hlen

lemma streamMessage_eq {env : MessageEnvelope} (h : codec.unmarshal raw = .ok env) (hne : raw ≠ [])
    {x : XMessage} (hdata : x.values.lookup "data" = some raw) (now : Time) (stream group : String) :
    streamMessage codec now stream group x =
      ((ofEnvelope stream env).setAckFunc (.xAck stream group x.id)).setNackFunc .returnNil := by
  obtain ⟨byte, rest, rfl⟩ := List.exists_cons_of_ne_nil hne
  unfold streamMessage
  dsimp only
  rw [hdata]
  dsimp only
  rw [h]

lemma listMessage_eq {env : MessageEnvelope} (h : codec.unmarshal raw = .ok env) (now : Time) (key : String) :
    listMessage codec now key raw =
      ((ofEnvelope key env).setAckFunc .returnNil).setNackFunc (.lPush key raw) := by
  unfold listMessage
  rw [h]

lemma lookup_data (env : MessageEnvelope) (raw : Bytes) : (streamValues env raw).lookup "data" = some raw :=
  AList.lookup_insert _

lemma restores_stream (h : codec.RoundTrips (envelope cfg po m) raw) (now : Time)
    (stream group entryID : String) :
    Restores po m (streamMessage codec now stream group
      ⟨entryID, streamValues (envelope cfg po m) raw⟩) := by
  have hne : raw ≠ [] := List.ne_nil_of_length_pos (Nat.zero_lt_of_lt h.payload_lt)
  rw [streamMessage_eq h.unmarshal_eq hne (lookup_data _ _)]
  exact ⟨rfl, rfl, lookup_mergeHeaders m.headers po.headers⟩

lemma restores_list (h : codec.RoundTrips (envelope cfg po m) raw) (now : Time) (key : String) :
    Restores po m (listMessage codec now key raw) := by
  rw [listMessage_eq h.unmarshal_eq]
  exact ⟨rfl, rfl, lookup_mergeHeaders m.headers po.headers⟩

lemma effectiveMode_of_validate (h : cfg.validate = none) : ∃ mode, cfg.effectiveMode = some mode := by
  cases hmode : cfg.effectiveMode with
  | some mode => exact ⟨mode, rfl⟩
  | none =>
    unfold RedisConfig.validate at h
    rw [hmode] at h
    split_ifs at h

lemma exists_publish (opts : List PublishOption) {mode : RedisMode}
    (hmarshal : codec.marshal (envelope cfg (publishOptions opts) m) = .ok raw)
    (hmode : cfg.effectiveMode = some mode) :
    ∃ delay, publish codec cfg m opts =
      .ok (write cfg mode (envelope cfg (publishOptions opts) m) raw, delay) := by
  unfold publish
  dsimp only
  rw [hmarshal, hmode]
  exact ⟨_, rfl⟩

lemma exists_raw_of_publish {opts : List PublishOption} {written : Write} {delay : Option Duration}
    (h : publish codec cfg m opts = .ok (written, delay)) :
    ∃ raw mode, codec.marshal (envelope cfg (publishOptions opts) m) = .ok raw ∧
      cfg.effectiveMode = some mode ∧ written = write cfg mode (envelope cfg (publishOptions opts) m) raw := by
  unfold publish at h
  dsimp only at h
  cases hmarshal : codec.marshal (envelope cfg (publishOptions opts) m) with
  | error err =>
    rw [hmarshal] at h
    cases h
  | ok raw =>
    rw [hmarshal] at h
    cases hmode : cfg.effectiveMode with
    | none =>
      rw [hmode] at h
      cases h
    | some mode =>
      rw [hmode] at h
      cases h
      exact ⟨raw, mode, rfl, rfl, rfl⟩

section Json

variable {jsonError : Bytes → GoError} {timeError : GoError} {zone : Int}

lemma toJSON_of_marshal {env : MessageEnvelope}
    (h : (EnvelopeCodec.json jsonError timeError zone).marshal env = .ok raw) : env.toJSON zone = some raw := by
  simp only [EnvelopeCodec.json, EnvelopeCodec.standard] at h
  split at h
  · rename_i data hdata
    cases h
    exact hdata
  · cases h

lemma unmarshal_of_toJSON {env : MessageEnvelope} (h : env.toJSON zone = some raw)
    (hattempts : -2 ^ 63 ≤ env.attempts ∧ env.attempts < 2 ^ 63) :
    raw ≠ [] ∧ ∃ headers : Headers,
      (EnvelopeCodec.json jsonError timeError zone).unmarshal raw = .ok { env with headers := headers } ∧
        ∀ name, headers.lookup name = env.headers.lookup name := by
  obtain ⟨headers, hread, hlookup⟩ := MessageEnvelope.fromJSON_toJSON h hattempts
  refine ⟨?_, headers, ?_, hlookup⟩
  · rintro rfl
    cases hread
  · simp only [EnvelopeCodec.json, EnvelopeCodec.standard, hread]

theorem restores_handOut {opts : List PublishOption} {written : Write} {delay : Option Duration}
    (hmode : cfg.effectiveMode = some .stream ∨ cfg.effectiveMode = some .list)
    (hattempts : -2 ^ 63 ≤ m.attempts ∧ m.attempts < 2 ^ 63)
    (hpub : publish (.json jsonError timeError zone) cfg m opts = .ok (written, delay)) (a : Arrival) :
    ∃ got, handOut (.json jsonError timeError zone) cfg a .consume written = some got ∧
      Restores (publishOptions opts) m got := by
  obtain ⟨raw, mode, hmarshal, heffective, rfl⟩ := exists_raw_of_publish hpub
  obtain ⟨hne, headers, hread, hlookup⟩ := unmarshal_of_toJSON (toJSON_of_marshal hmarshal) hattempts
  have hheaders : ∀ key, headers.lookup key =
      ((publishOptions opts).headers.lookup key).or (m.headers.lookup key) := by
    intro key
    rw [hlookup, ← lookup_mergeHeaders]
    rfl
  rw [heffective] at hmode
  rcases hmode with hmode | hmode <;> cases hmode
  · refine ⟨_, rfl, ?_⟩
    rw [streamMessage_eq hread hne (lookup_data _ _)]
    exact ⟨rfl, rfl, hheaders⟩
  · refine ⟨_, rfl, ?_⟩
    rw [listMessage_eq hread]
    exact ⟨rfl, rfl, hheaders⟩

end Json

end MailBaby.Redis

namespace MailBaby.Proofs

open Redis

/-- A published message is handed out as it was exactly if it is read with `Consume` from a stream
or a list. -/
theorem redis_restores_iff {codec : EnvelopeCodec} {cfg : RedisConfig} (hcfg : cfg.validate = none)
    {m : Message} {opts : List PublishOption} {raw : Bytes}
    (hround : codec.RoundTrips (envelope cfg (publishOptions opts) m) raw) (a : Arrival)
    {access : Access} (haccess : access = .consume ∨ cfg.effectiveMode = some .list) :
    ∃ written delay got, Redis.publish codec cfg m opts = .ok (written, delay) ∧
      handOut codec cfg a access written = some got ∧
      (Restores (publishOptions opts) m got ↔
        access = .consume ∧ cfg.effectiveMode ≠ some .pubsub) := by
  obtain ⟨mode, hmode⟩ := effectiveMode_of_validate hcfg
  obtain ⟨delay, hpub⟩ := exists_publish opts hround.marshal_eq hmode
  refine ⟨write cfg mode (envelope cfg (publishOptions opts) m) raw, delay, ?_⟩
  rw [hmode]
  cases access with
  | consume =>
    cases mode with
    | stream =>
      exact ⟨_, hpub, rfl, iff_of_true (restores_stream hround _ _ _ _) ⟨rfl, by decide⟩⟩
    | list => exact ⟨_, hpub, rfl, iff_of_true (restores_list hround _ _) ⟨rfl, by decide⟩⟩
    | pubsub =>
      exact ⟨_, hpub, rfl, iff_of_false (not_restores_raw hround rfl) fun h => h.2 rfl⟩
  | receive =>
    obtain rfl : mode = .list := by simpa [hmode] using haccess
    refine ⟨_, hpub, rfl, iff_of_false (not_restores_raw hround rfl) ?_⟩
    rintro ⟨hfalse, -⟩
    cases hfalse

def redisMail : Message := { id := "42", payload := [104, 105] }

def redisConfig (mode : String) : RedisConfig := { host := "127.0.0.1", key := "mail", mode := mode }

def arrival : Arrival := ⟨0, "new", "1-0"⟩

def redisJSON : Bytes :=
  ("\x7b\"id\":\"42\",\"topic\":\"mail\",\"payload\":\"aGk=\"," ++
    "\"timestamp\":\"1970-01-01T00:00:00Z\",\"attempts\":0\x7d").toList.map fun c => UInt8.ofNat c.toNat

/-- Encodes and decodes the envelope of `redisMail`, which is the same in every mode. -/
def redisCodec : EnvelopeCodec :=
  ⟨fun _ => .ok redisJSON, fun _ => .ok (envelope (redisConfig "") {} redisMail)⟩

theorem redis_restores_iff_pubsub : (redisConfig "pubsub").validate = none ∧
    ∃ written delay got, Redis.publish redisCodec (redisConfig "pubsub") redisMail [] =
        .ok (written, delay) ∧
      handOut redisCodec (redisConfig "pubsub") arrival .consume written = some got ∧
      (Restores (publishOptions []) redisMail got ↔
        Access.consume = .consume ∧ (redisConfig "pubsub").effectiveMode ≠ some .pubsub) :=
  ⟨rfl, redis_restores_iff rfl (⟨rfl, rfl, by decide +kernel⟩ : redisCodec.RoundTrips _ redisJSON) arrival
    (.inl rfl)⟩

theorem redis_envelope_not_unwrapped :
    (redisConfig "pubsub").validate = none ∧ (redisConfig "list").validate = none ∧
    (∃ written delay got, Redis.publish redisCodec (redisConfig "pubsub") redisMail [] =
        .ok (written, delay) ∧
      handOut redisCodec (redisConfig "pubsub") arrival .consume written = some got ∧
      got.payload = redisJSON ∧ ¬Restores (publishOptions []) redisMail got) ∧
    (∃ written delay got, Redis.publish redisCodec (redisConfig "list") redisMail [] =
        .ok (written, delay) ∧
      handOut redisCodec (redisConfig "list") arrival .receive written = some got ∧
      got.payload = redisJSON ∧ ¬Restores (publishOptions []) redisMail got) :=
  ⟨rfl, rfl, ⟨_, _, _, rfl, rfl, rfl, fun h => absurd h.id_eq (by decide)⟩,
    ⟨_, _, _, rfl, rfl, rfl, fun h => absurd h.id_eq (by decide)⟩⟩

end MailBaby.Proofs
