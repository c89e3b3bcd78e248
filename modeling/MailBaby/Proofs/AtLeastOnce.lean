import MailBaby.Lib.Transition
import MailBaby.Proofs.Pipeline

/-!
# At-least-once delivery

A broker holds a set of unsettled messages and hands any of them out, again and again, until an
acknowledgement for it is accepted.
-/

namespace MailBaby.Proofs

open Lib

structure Broker where
  unsettled : List Nat
  journal : Nat → List Event

/-- One delivery of message `id`; the record may differ from that of an earlier delivery. -/
structure Handout where
  id : Nat
  delivery : Delivery
  env : Env

namespace Broker

variable (codec : Codec) (e : Engine) (cfg : QueueConfig) (co : ConsumeOptions)

def start (ids : List Nat) : Broker := ⟨ids, fun _ => []⟩

def handle (a : Handout) : World := (a.delivery.process cfg co (e.processMessage codec) a.env {}).2

/-- Hands out an unsettled message that carries a valid email, outside the automatic modes. -/
def step (b : Broker) (a : Handout) : Option Broker :=
  if a.id ∈ b.unsettled ∧ codec.accepts (a.delivery.message cfg).payload = true ∧
      a.delivery.autoAck cfg co = false then
    let w := handle codec e cfg co a
    some
      { unsettled := if w.settled then b.unsettled.filter (· ≠ a.id) else b.unsettled
        journal := fun id => if id = a.id then b.journal id ++ w.events else b.journal id }
  else none

def settled (b : Broker) (id : Nat) : Bool := (b.journal id).any Event.settled

def safeguarded (b : Broker) (id : Nat) : Bool :=
  (b.journal id).any Event.delivered || (b.journal id).any Event.deadLettered

def Safe (b : Broker) : Prop := ∀ id, b.settled id = true → b.safeguarded id = true

/-- The message is safe already, an attempt delivers it, the publication of its dead letter does
not return an error, or the `Ack` that follows is not accepted. -/
def Keeps (b : Broker) (a : Handout) : Prop :=
  b.safeguarded a.id = true ∨ e.Delivers a.env (a.delivery.message cfg) ∨
    (∀ err, a.env.publish ≠ .returns (some err)) ∨ a.env.accepts (a.delivery.message cfg) 0 = false

variable {codec e cfg co} {b b' : Broker} {a : Handout}

lemma step_eq_some (h : step codec e cfg co b a = some b') :
    a.id ∈ b.unsettled ∧ (∃ email, codec.ValidPayload (a.delivery.message cfg).payload email) ∧
    a.delivery.autoAck cfg co = false ∧
    b'.unsettled = (if (handle codec e cfg co a).settled then b.unsettled.filter (· ≠ a.id)
      else b.unsettled) ∧
    ∀ id, b'.journal id = if id = a.id then b.journal id ++ (handle codec e cfg co a).events
      else b.journal id := by
  unfold step at h
  split_ifs at h with hen
  cases h
  exact ⟨hen.1, Codec.validPayload_of_accepts hen.2.1, hen.2.2, rfl, fun id => rfl⟩

lemma settled_step (h : step codec e cfg co b a = some b') (id : Nat) :
    b'.settled id = (b.settled id || (decide (id = a.id) && (handle codec e cfg co a).settled)) := by
  obtain ⟨-, -, -, -, hj⟩ := step_eq_some h
  unfold settled World.settled
  rw [hj id]
  by_cases hid : id = a.id <;> simp [hid]

lemma safeguarded_step (h : step codec e cfg co b a = some b') (id : Nat) :
    b'.safeguarded id = (b.safeguarded id || (decide (id = a.id) &&
      ((handle codec e cfg co a).sent || (handle codec e cfg co a).deadLettered))) := by
  obtain ⟨-, -, -, -, hj⟩ := step_eq_some h
  unfold safeguarded World.sent World.deadLettered
  rw [hj id]
  by_cases hid : id = a.id
  · simp only [hid, if_true, List.any_append, decide_true, Bool.true_and]
    ac_rfl
  · simp [hid]

def Closed (b : Broker) : Prop := ∀ id, b.settled id = true → id ∉ b.unsettled

lemma closed_step (hb : b.Closed) (h : step codec e cfg co b a = some b') : b'.Closed := by
  intro id hid hmem
  obtain ⟨-, -, -, hu, -⟩ := step_eq_some h
  rw [settled_step h, Bool.or_eq_true] at hid
  rw [hu] at hmem
  rcases hid with hold | hnew
  · refine hb id hold ?_
    split_ifs at hmem with hset
    · exact (List.mem_filter.mp hmem).1
    · exact hmem
  · rw [Bool.and_eq_true, decide_eq_true_eq] at hnew
    rw [if_pos hnew.2, List.mem_filter] at hmem
    simp [hnew.1] at hmem

section Engine

variable (hmw : e.middlewares = builtinMiddlewares e.queue) (hdlq : e.dlqProducer.isSome = true)
include hmw hdlq

lemma handle_unsafe_iff {email : Email} (hvalid : codec.ValidPayload (a.delivery.message cfg).payload email)
    (hauto : a.delivery.autoAck cfg co = false) :
    ((handle codec e cfg co a).settled = true ∧ (handle codec e cfg co a).sent = false ∧
      (handle codec e cfg co a).deadLettered = false) ↔
    (¬e.Delivers a.env (a.delivery.message cfg) ∧ (∃ err, a.env.publish = .returns (some err)) ∧
      a.env.accepts (a.delivery.message cfg) 0 = true) := by
  have hrun : handle codec e cfg co a =
      (deliver false (e.processMessage codec) (a.delivery.message cfg) a.env {}).2 := by
    unfold handle
    rw [Delivery.process_eq, hauto]
  obtain ⟨producer, hp⟩ := Option.isSome_iff_exists.mp hdlq
  by_cases hd : e.Delivers a.env (a.delivery.message cfg)
  · have hout := deliver_outcome_of_delivers hmw hvalid hd
    rw [← hrun] at hout
    have hsent : (handle codec e cfg co a).sent = true := congrArg Outcome.sent hout
    simp [hsent, hd]
  · have hout := deliver_outcome_of_fails hmw hvalid hd
    rw [← hrun] at hout
    have hsent : (handle codec e cfg co a).sent = (failureOutcome e a.env _).sent :=
      congrArg Outcome.sent hout
    have hdead : (handle codec e cfg co a).deadLettered = (failureOutcome e a.env _).deadLettered :=
      congrArg Outcome.deadLettered hout
    have hset : (handle codec e cfg co a).settled = (failureOutcome e a.env _).settled :=
      congrArg Outcome.settled hout
    rw [hsent, hdead, hset]
    unfold failureOutcome
    rw [hp]
    rcases a.env.publish with ⟨_ | err⟩ | v <;> simp [hd]

lemma safe_step_iff (hb : b.Safe) (h : step codec e cfg co b a = some b') :
    b'.Safe ↔ Keeps e cfg b a := by
  obtain ⟨-, ⟨email, hvalid⟩, hauto, -, -⟩ := step_eq_some h
  have hunsafe := handle_unsafe_iff hmw hdlq hvalid hauto
  constructor
  · intro hsafe
    by_contra hno
    simp only [Keeps, not_or, not_forall, not_not, Bool.not_eq_false, Bool.not_eq_true] at hno
    obtain ⟨hguard, hdel, herr, hacc⟩ := hno
    obtain ⟨hset, hsent, hdead⟩ := hunsafe.mpr ⟨hdel, herr, hacc⟩
    have hcontra := hsafe a.id (by simp [settled_step h, hset])
    simp [safeguarded_step h, hguard, hsent, hdead] at hcontra
  · intro hkeep id hid
    rw [settled_step h, Bool.or_eq_true, Bool.and_eq_true, decide_eq_true_eq] at hid
    rw [safeguarded_step h, Bool.or_eq_true]
    rcases hid with hold | ⟨rfl, hset⟩
    · exact Or.inl (hb id hold)
    · rcases hkeep with hguard | hkeep
      · exact Or.inl hguard
      · right
        by_contra hno
        simp only [decide_true, Bool.true_and, Bool.or_eq_true, not_or, Bool.not_eq_true] at hno
        obtain ⟨hdel, ⟨err, herr⟩, hacc⟩ := hunsafe.mp ⟨hset, hno.1, hno.2⟩
        rcases hkeep with hdel' | herr' | hacc'
        · exact hdel hdel'
        · exact herr' err herr
        · rw [hacc] at hacc'
          cases hacc'

omit hmw hdlq in
lemma unsafe_step (hc : b.Closed) (hb : ¬b.Safe) (h : step codec e cfg co b a = some b') : ¬b'.Safe := by
  intro hsafe
  refine hb fun id hid => ?_
  have hne : id ≠ a.id := by
    rintro rfl
    exact hc a.id hid (step_eq_some h).1
  have hguard := hsafe id (by simp [settled_step h, hid])
  simpa [safeguarded_step h, hne] using hguard

end Engine

end Broker

/-- With a dead-letter queue, over every history of deliveries and redeliveries: only sent or
dead-lettered messages have been acknowledged, exactly if every handout kept to the condition. -/
theorem broker_safe_iff {codec : Codec} {e : Engine} {cfg : QueueConfig} {co : ConsumeOptions}
    (hmw : e.middlewares = builtinMiddlewares e.queue) (hdlq : e.dlqProducer.isSome = true)
    (ids : List Nat) (as : List Handout) (b : Broker)
    (hrun : run (Broker.step codec e cfg co) (Broker.start ids) as = some b) :
    b.Safe ↔ Along (Broker.step codec e cfg co) (Broker.Keeps e cfg) (Broker.start ids) as := by
  refine run_iff_along (I := Broker.Closed) (P := Broker.Safe) ?_ ?_ ?_ ?_ ?_ ?_ hrun
  · intro b a b' hc h
    exact Broker.closed_step hc h
  · intro b a b' _ hb hkeep h
    exact (Broker.safe_step_iff hmw hdlq hb h).mpr hkeep
  · intro b a b' hc hno h
    by_cases hb : b.Safe
    · exact fun hsafe => hno ((Broker.safe_step_iff hmw hdlq hb h).mp hsafe)
    · exact Broker.unsafe_step hc hb h
  · intro b a b' hc hb h
    exact Broker.unsafe_step hc hb h
  · intro id hid
    cases hid
  · intro id hid
    cases hid

def mailJSON : Bytes :=
  [0x7b, 0x22, 0x74, 0x6f, 0x22, 0x3a, 0x5b, 0x22, 0x61, 0x40, 0x62, 0x2e, 0x63, 0x22, 0x5d, 0x2c,
   0x22, 0x73, 0x75, 0x62, 0x6a, 0x65, 0x63, 0x74, 0x22, 0x3a, 0x22, 0x22, 0x7d]

def mail : Email := { toAddrs := ["a@b.c"] }

def plainCodec : Codec := ⟨fun _ => .ok mail, fun addr => .ok addr⟩

lemma plainCodec_validPayload : plainCodec.ValidPayload mailJSON mail := ⟨by decide, rfl, rfl⟩

def dlqEngine : Engine :=
  Engine.new ⟨.memory, {}⟩ none [.withDLQ ⟨.memory, {}⟩ "dead", .withMaxRetries 1]

def failingHandout (publish : CallResult) : Handout :=
  { id := 0
    delivery := .memory { payload := mailJSON }
    env := { send := fun _ => .returns (some ⟨"smtp: connection refused"⟩), publish := publish } }

theorem broker_safe_iff_single : ∃ b, run (Broker.step plainCodec dlqEngine {} {}) (Broker.start [0])
      [failingHandout (.returns none)] = some b ∧
    (b.Safe ↔ Along (Broker.step plainCodec dlqEngine {} {}) (Broker.Keeps dlqEngine {})
      (Broker.start [0]) [failingHandout (.returns none)]) :=
  ⟨_, rfl, broker_safe_iff rfl rfl [0] [failingHandout (.returns none)] _ rfl⟩

/-- The engine leaves the message open when its dead letter cannot be published, but the memory
consumer acknowledges it all the same. -/
theorem failed_publish_is_acknowledged : ∃ b, run (Broker.step plainCodec dlqEngine {} {})
      (Broker.start [0]) [failingHandout (.returns (some ⟨"broker down"⟩))] = some b ∧ ¬b.Safe := by
  refine ⟨_, rfl, fun hsafe => ?_⟩
  have hguard := hsafe 0 (by decide)
  revert hguard
  decide

/-! ### The shipped wiring -/

lemma newApp_of_validate {cfg : Config} (h : cfg.validate = none) :
    ∃ app, newApp cfg = .ok app ∧ app.engine.middlewares = builtinMiddlewares app.engine.queue ∧
      app.engine.dlqProducer = none ∧ app.engine.errorHandler = false := by
  obtain ⟨driver, -, -, hq⟩ := Queue.new_of_validate (Config.queue_of_validate h)
  unfold newApp
  rw [hq]
  exact ⟨_, rfl, rfl, rfl, rfl⟩

/-- Without a dead-letter queue the engine acknowledges every message that it could not send,
so an acknowledged message was sent exactly if some attempt delivers it or the `Ack` of the
failure path is not accepted. -/
theorem shipped_engine_lossless_iff {codec : Codec} {cfg : Config} {m : Message} {email : Email}
    (hcfg : cfg.validate = none) (hvalid : codec.ValidPayload m.payload email) (env : Env) :
    ∃ app, newApp cfg = .ok app ∧
      let w := (app.engine.processMessage codec env (({} : World).setMsg m)).2
      ((w.settled = true → w.sent = true ∨ w.deadLettered = true) ↔
        app.engine.Delivers env m ∨ env.accepts m 0 = false) := by
  obtain ⟨app, happ, hmw, hdlq, hhandler⟩ := newApp_of_validate hcfg
  refine ⟨app, happ, ?_⟩
  dsimp only
  by_cases hd : app.engine.Delivers env m
  · obtain ⟨k, hk⟩ := hd
    obtain ⟨w, hrun, -, hview⟩ :=
      Engine.processMessage_delivers (w := ({} : World).setMsg m) hmw rfl hvalid hk
    have hsent : w.sent = true := congrArg View.sent hview
    rw [hrun]
    exact ⟨fun _ => Or.inl ⟨k, hk⟩, fun _ _ => Or.inl hsent⟩
  · have hfail := congrArg Prod.fst
      (Engine.processMessage_fails (w := ({} : World).setMsg m) hmw rfl hvalid hd)
    have hview : (app.engine.processMessage codec env (({} : World).setMsg m)).2.view =
        View.ack env { msg := m } := by
      rw [view_start] at hfail
      simpa [View.fail, hdlq, hhandler] using hfail
    have hsent : (app.engine.processMessage codec env (({} : World).setMsg m)).2.sent = false := by
      simpa using congrArg View.sent hview
    have hdead : (app.engine.processMessage codec env (({} : World).setMsg m)).2.deadLettered = false := by
      simpa using congrArg View.deadLettered hview
    have hset : (app.engine.processMessage codec env (({} : World).setMsg m)).2.settled =
        env.accepts m 0 := by
      simpa [View.ack_settled] using congrArg View.settled hview
    simp [hsent, hdead, hset, hd]

def memoryConfig : Config :=
  { app := { name := "mailbaby" }, queue := { driver := "memory", concurrency := 1 } }

def memoryMessage : Message := Memory.consumed { payload := mailJSON }

def senderDown : Env := { send := fun _ => .returns (some ⟨"smtp: connection refused"⟩) }

theorem shipped_engine_lossless_iff_memory : ∃ app, newApp memoryConfig = .ok app ∧
    let w := (app.engine.processMessage plainCodec senderDown (({} : World).setMsg memoryMessage)).2
    ((w.settled = true → w.sent = true ∨ w.deadLettered = true) ↔
      app.engine.Delivers senderDown memoryMessage ∨ senderDown.accepts memoryMessage 0 = false) :=
  shipped_engine_lossless_iff rfl plainCodec_validPayload senderDown

theorem shipped_engine_loses_mail : memoryConfig.validate = none ∧
    plainCodec.accepts memoryMessage.payload = true ∧
    ∃ app, newApp memoryConfig = .ok app ∧
      let w := (app.engine.processMessage plainCodec senderDown (({} : World).setMsg memoryMessage)).2
      w.settled = true ∧ w.sent = false ∧ w.deadLettered = false :=
  ⟨rfl, rfl, _, rfl, by decide⟩

end MailBaby.Proofs
