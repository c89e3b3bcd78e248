import MailBaby.Driver.Redis
import MailBaby.Proofs.Pipeline

/-!
# Emails pushed to a Redis list

The list consumer takes every text that reads as an envelope for one.
-/

namespace MailBaby

open Lib

namespace Engine

variable (codec : Codec) (e : Engine) (env : Env) {w : World}

lemma handlePayload_of_empty (hpayload : w.msg.payload = []) (hfn : w.msg.ackFn = some .returnNil)
    (hack : w.msg.acknowledged = false) :
    ∃ w', handlePayload codec e env w = (.ok (some errInvalidPayload), w') ∧
      w'.msg.acknowledged = true ∧ w'.events = w.events ++ [.ack .returnNil (env.done w.clock) none] := by
  let w₀ := w.count fun s => { s with totalFailed := s.totalFailed + 1 }
  let w₁ := (w₀.emit (.ack .returnNil (env.done w.clock) none)).setMsg { w.msg with acknowledged := true }
  have hcall : ackMessage env w₀ = (.ok none, w₁) := ackMessage_of_some (w := w₀) hack hfn
  have hcount : countFailed env w = (.ok (), w₀) := rfl
  have hdiscard : (discard ackMessage : Proc Unit) env w₀ = (.ok (), w₁) := Eff.bind_of_ok hcall _
  refine ⟨w₁, ?_, rfl, rfl⟩
  unfold handlePayload
  rw [Eff.bind_of_ok (Eff.query_apply env w _), if_pos hpayload, Eff.bind_of_ok hcount,
    Eff.bind_of_ok hdiscard]
  rfl

lemma processMessage_of_empty (hpayload : w.msg.payload = []) (hfn : w.msg.ackFn = some .returnNil)
    (hack : w.msg.acknowledged = false) :
    ∃ w', e.processMessage codec env w = (.ok (some errInvalidPayload), w') ∧
      w'.msg.acknowledged = true ∧ w'.events = w.events ++ [.ack .returnNil (env.done w.clock) none] := by
  let w₀ := w.count fun s => { s with inFlight := s.inFlight + 1, totalReceived := s.totalReceived + 1 }
  obtain ⟨w₁, hbody, hdone, hevents⟩ :=
    handlePayload_of_empty codec e env (w := w₀) hpayload hfn hack
  have hrun : e.processMessage codec env w = ((handlePayload codec e env w₀).1,
      (handlePayload codec e env w₀).2.count fun s => { s with inFlight := s.inFlight - 1 }) := rfl
  rw [hbody] at hrun
  exact ⟨_, hrun, hdone, hevents⟩

end Engine

namespace Redis

namespace MessageEnvelope

def refuses (entry : String × Json) : Bool :=
  [topicField, payloadField, timestampField, attemptsField].any fun f =>
    foldName f.name = foldName entry.1 && !f.fits entry.2

lemma nodup_emailFields : (Email.fields.map fun f => foldName f.name).Nodup := by decide +kernel

lemma accepts_iff_of_email {entry : String × Json} (hemail : StructField.accepts Email.fields entry = true) :
    StructField.accepts fields entry = true ↔ refuses entry = false := by
  have hfits := (StructField.accepts_iff nodup_emailFields entry).mp hemail
  have hid : foldName idField.name = foldName entry.1 → idField.fits entry.2 = true :=
    hfits Email.idField (by simp [Email.fields])
  have hheaders : foldName headersField.name = foldName entry.1 → headersField.fits entry.2 = true :=
    hfits Email.headersField (by simp [Email.fields])
  rw [StructField.accepts_iff nodup_fields, refuses]
  simp only [fields, List.forall_mem_cons, List.any_eq_false, Bool.and_eq_true, decide_eq_true_eq,
    Bool.not_eq_true', not_and, Bool.not_eq_false]
  constructor
  · rintro ⟨-, htopic, hpayload, -, htimestamp, hattempts, -⟩
    exact ⟨htopic, hpayload, htimestamp, hattempts, List.forall_mem_nil _⟩
  · rintro ⟨htopic, hpayload, htimestamp, hattempts, -⟩
    exact ⟨hid, htopic, hpayload, hheaders, htimestamp, hattempts, List.forall_mem_nil _⟩

lemma fits_iff_of_email {entries : List (String × Json)}
    (hemail : (Decoder.struct Email.fields).fits (.obj entries) = true) :
    (Decoder.struct fields).fits (.obj entries) = true ↔ entries.any refuses = false := by
  have hall : ∀ entry ∈ entries, StructField.accepts Email.fields entry = true := List.all_eq_true.mp hemail
  rw [List.any_eq_false]
  refine List.all_eq_true.trans (forall₂_congr fun entry hentry => ?_)
  rw [accepts_iff_of_email (hall entry hentry), Bool.not_eq_true]

lemma length_payload_lt {raw : Bytes} {entries : List (String × Json)} {env : MessageEnvelope}
    (hraw : Json.parse raw = some (.obj entries)) (hne : raw ≠ [])
    (h : fromJSON raw = some env) : env.payload.length < raw.length := by
  have hrun : entries.foldlM (StructField.store fields) zero = some env := by
    rw [fromJSON, Decoder.unmarshal, hraw] at h
    exact h
  refine StructField.foldlM_store_invariant (P := fun env => env.payload.length < raw.length) ?_
    (List.length_pos_iff.mpr hne) hrun
  intro entry hentry f hf _ s t hs hf_run
  have hentry_lt : entry.2.size < raw.length :=
    Nat.lt_of_lt_of_le (Json.size_lt_of_mem hentry) (Json.size_le_of_parse hraw)
  simp only [fields, List.mem_cons, List.not_mem_nil, or_false] at hf
  rcases hf with rfl | rfl | rfl | rfl | rfl | rfl
  case inr.inr.inl =>
    obtain ⟨payload, hpayload, rfl⟩ := Option.map_eq_some_iff.mp hf_run
    exact Nat.lt_of_le_of_lt (Decoder.length_bytes_le hpayload) hentry_lt
  all_goals
    obtain ⟨_, -, rfl⟩ := Option.map_eq_some_iff.mp hf_run
    exact hs

lemma payload_eq_nil {raw : Bytes} {entries : List (String × Json)} {env : MessageEnvelope}
    (hraw : Json.parse raw = some (.obj entries)) (h : fromJSON raw = some env)
    (hnone : ∀ entry ∈ entries, foldName entry.1 ≠ foldName "payload") : env.payload = [] := by
  have hrun : entries.foldlM (StructField.store fields) zero = some env := by
    rw [fromJSON, Decoder.unmarshal, hraw] at h
    exact h
  refine StructField.foldlM_store_invariant (P := fun env => env.payload = []) ?_ rfl hrun
  intro entry hentry f hf hname s t hs hf_run
  simp only [fields, List.mem_cons, List.not_mem_nil, or_false] at hf
  rcases hf with rfl | rfl | rfl | rfl | rfl | rfl
  case inr.inr.inl => exact absurd hname.symm (hnone entry hentry)
  all_goals
    obtain ⟨_, -, rfl⟩ := Option.map_eq_some_iff.mp hf_run
    exact hs

end MessageEnvelope

/-- The consumer hands out the pushed text, and the engine reads the sender's email in it. -/
structure Ingested (codec : Codec) (raw : Bytes) (email : Email) (got : Message) : Prop where
  payload_eq : got.payload = raw
  payload_ne : got.payload ≠ []
  email_eq : codec.unmarshalEmail got.payload = .ok email

section ListMessage

variable {codec : EnvelopeCodec} {raw : Bytes}

lemma listMessage_of_ok {env : MessageEnvelope} (h : codec.unmarshal raw = .ok env) (now : Time)
    (key : String) : (listMessage codec now key raw).payload = env.payload := by
  rw [listMessage, h]
  rfl

lemma listMessage_of_error {err : GoError} (h : codec.unmarshal raw = .error err) (now : Time)
    (key : String) : (listMessage codec now key raw).payload = raw := by
  rw [listMessage, h]
  rfl

lemma listMessage_unsettled (codec : EnvelopeCodec) (now : Time) (key : String) (raw : Bytes) :
    (listMessage codec now key raw).ackFn = some .returnNil ∧
      (listMessage codec now key raw).acknowledged = false := by
  unfold listMessage
  cases codec.unmarshal raw <;> exact ⟨rfl, rfl⟩

lemma processListMessage_of_empty {now : Time} {key : String}
    (hpayload : (listMessage codec now key raw).payload = []) (emailCodec : Codec) (e : Engine)
    (env : Env) (w : World) :
    (processListMessage codec now key (e.processMessage emailCodec) raw env w).2.events =
      w.events ++ [.ack .returnNil (env.done w.clock) none] := by
  obtain ⟨hfn, hack⟩ := listMessage_unsettled codec now key raw
  obtain ⟨w₁, hrun, hdone, hevents⟩ := Engine.processMessage_of_empty emailCodec e env
    (w := w.setMsg (listMessage codec now key raw)) hpayload hfn hack
  rw [processListMessage, deliver_of_ok hrun, ackMessage_of_acknowledged hdone]
  exact hevents

end ListMessage

end Redis

end MailBaby

namespace MailBaby.Proofs

open Lib Redis

/-- An email pushed to the list is handed out as it was pushed exactly if one of its entries goes to a
field that only envelopes have and does not fit it. Any other email without a field for the payload is
acknowledged unread. -/
theorem list_ingestion_iff (jsonError : Bytes → GoError) (parseAddress : String → Except GoError String)
    (marshal : MessageEnvelope → Except GoError Bytes) (now : Time) (key : String) {raw : Bytes}
    {entries : List (String × Json)} {email : Email} (hraw : Json.parse raw = some (.obj entries))
    (hemail : Email.fromJSON raw = some email) :
    (Ingested (.standard jsonError parseAddress) raw email
        (listMessage (.standard jsonError marshal) now key raw) ↔
      entries.any MessageEnvelope.refuses = true) ∧
    (entries.any MessageEnvelope.refuses = false →
      (∀ entry ∈ entries, foldName entry.1 ≠ foldName "payload") →
      ∀ (e : Engine) (env : Env) (w : World),
        (processListMessage (.standard jsonError marshal) now key
          (e.processMessage (.standard jsonError parseAddress)) raw env w).2.events =
            w.events ++ [.ack .returnNil (env.done w.clock) none]) := by
  have hne : raw ≠ [] := by
    rintro rfl
    cases hraw
  have hdecode : (Codec.standard jsonError parseAddress).unmarshalEmail raw = .ok email := by
    simp only [Codec.standard, hemail]
  have hfits : (Decoder.struct Email.fields).fits (.obj entries) = true := by
    rw [Email.fromJSON, Decoder.unmarshal, hraw] at hemail
    rw [← (Decoder.struct Email.fields).run_isSome {}]
    exact Option.isSome_iff_exists.mpr ⟨email, hemail⟩
  have henvelope : (MessageEnvelope.fromJSON raw).isSome = true ↔
      entries.any MessageEnvelope.refuses = false := by
    rw [← MessageEnvelope.fits_iff_of_email hfits,
      ← (Decoder.struct MessageEnvelope.fields).run_isSome MessageEnvelope.zero,
      MessageEnvelope.fromJSON, Decoder.unmarshal, hraw, Option.bind_some]
  cases hread : MessageEnvelope.fromJSON raw with
  | some env =>
    have hunmarshal : (EnvelopeCodec.standard jsonError marshal).unmarshal raw = .ok env := by
      simp only [EnvelopeCodec.standard, hread]
    have hpayload := listMessage_of_ok hunmarshal now key
    have hfalse : entries.any MessageEnvelope.refuses = false :=
      henvelope.mp (Option.isSome_iff_exists.mpr ⟨env, hread⟩)
    refine ⟨iff_of_false ?_ (by rw [hfalse]; exact Bool.false_ne_true), ?_⟩
    · intro hingested
      have hlt := MessageEnvelope.length_payload_lt hraw hne hread
      rw [← hpayload, hingested.payload_eq] at hlt
      exact Nat.lt_irrefl _ hlt
    · intro _ hnone
      refine processListMessage_of_empty ?_ _
      rw [hpayload, MessageEnvelope.payload_eq_nil hraw hread hnone]
  | none =>
    have hunmarshal : (EnvelopeCodec.standard jsonError marshal).unmarshal raw = .error (jsonError raw) := by
      simp only [EnvelopeCodec.standard, hread]
    have hpayload := listMessage_of_error hunmarshal now key
    have htrue : entries.any MessageEnvelope.refuses = true := by
      rw [hread] at henvelope
      exact eq_true_of_ne_false (mt henvelope.mpr Bool.false_ne_true)
    refine ⟨iff_of_true ⟨hpayload, hpayload.symm ▸ hne, hpayload.symm ▸ hdecode⟩ htrue, ?_⟩
    intro hfalse
    exact absurd (hfalse.symm.trans htrue) Bool.false_ne_true

def asciiBytes (text : String) : Bytes := text.toList.map fun c => UInt8.ofNat c.toNat

def numberedMail : Bytes := asciiBytes "\x7b\"to\":[\"a@b.c\"],\"attempts\":\"2\"\x7d"

theorem list_ingestion_iff_numbered : ∃ entries email,
    Json.parse numberedMail = some (.obj entries) ∧ Email.fromJSON numberedMail = some email ∧
      entries.any MessageEnvelope.refuses = true ∧
      Ingested (.standard (fun _ => ⟨"json"⟩) .ok) numberedMail email
        (listMessage (.standard (fun _ => ⟨"json"⟩) fun _ => .ok []) 0 "mail" numberedMail) := by
  have htest : Json.testObject (fun entries => entries.any MessageEnvelope.refuses) numberedMail = true := by
    decide +kernel
  obtain ⟨entries, hraw, hrefuses⟩ := Json.exists_of_testObject _ htest
  obtain ⟨email, hemail⟩ := Option.isSome_iff_exists.mp
    (show (Email.fromJSON numberedMail).isSome = true by decide +kernel)
  exact ⟨entries, email, hraw, hemail, hrefuses,
    (list_ingestion_iff _ _ _ _ _ hraw hemail).1.mpr hrefuses⟩

def pushedMail : Bytes := asciiBytes "\x7b\"to\":[\"a@b.c\"],\"subject\":\"hi\"\x7d"

theorem pushed_mail_dropped :
    (∃ entries, Json.parse pushedMail = some (.obj entries) ∧
      (entries.map fun entry => entry.1) = ["to", "subject"]) ∧
    (Email.fromJSON pushedMail).map (fun email => (email.toAddrs, email.subject)) = some (["a@b.c"], "hi") ∧
    ∀ (jsonError : Bytes → GoError) (parseAddress : String → Except GoError String)
      (marshal : MessageEnvelope → Except GoError Bytes) (now : Time) (key : String),
      (listMessage (.standard jsonError marshal) now key pushedMail).payload = [] ∧
      ∀ (e : Engine) (env : Env) (w : World),
        (processListMessage (.standard jsonError marshal) now key
          (e.processMessage (.standard jsonError parseAddress)) pushedMail env w).2.events =
            w.events ++ [.ack .returnNil (env.done w.clock) none] := by
  have hread : (MessageEnvelope.fromJSON pushedMail).map (·.payload) = some [] := by decide +kernel
  obtain ⟨env, henv, hpayload⟩ := Option.map_eq_some_iff.mp hread
  have htest : Json.testObject (fun entries => (entries.map fun entry => entry.1) = ["to", "subject"])
      pushedMail = true := by
    decide +kernel
  obtain ⟨entries, hraw, hkeys⟩ := Json.exists_of_testObject _ htest
  refine ⟨⟨entries, hraw, of_decide_eq_true hkeys⟩, by decide +kernel, ?_⟩
  intro jsonError parseAddress marshal now key
  have hunmarshal : (EnvelopeCodec.standard jsonError marshal).unmarshal pushedMail = .ok env := by
    simp only [EnvelopeCodec.standard, henv]
  have hempty := (listMessage_of_ok hunmarshal now key).trans hpayload
  exact ⟨hempty, processListMessage_of_empty hempty _⟩

end MailBaby.Proofs
