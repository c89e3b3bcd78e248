import MailBaby.Proofs.AtLeastOnce

/-!
# Shutdown

`Engine.Stop` cancels the run context, at any clock of a delivery in progress. The first part
is about emails that are not out yet, the second about emails that are.
-/

namespace MailBaby

open Lib

/-- `sendWithRetry` does not return nil and the context is done when it ends: it returned
`ctx.Err()`, or its last `Send` failed under the cancelled context. -/
def Engine.EndsCancelled (e : Engine) (email : Email) (env : Env) (m : Message) : Prop :=
  ∃ r w, e.sendWithRetry email env (({} : World).setMsg m) = (r, w) ∧ r ≠ .ok none ∧
    env.done w.clock = true

lemma Engine.EndsCancelled.not_delivers {e : Engine} {email : Email} {env : Env} {m : Message}
    (h : e.EndsCancelled email env m) : ¬e.Delivers env m := by
  rintro ⟨k, hk⟩
  obtain ⟨r, w, hrun, hr, -⟩ := h
  have hloop : e.sendWithRetry email env (({} : World).setMsg m) =
      attempts e email (e.budget m) 0 none env (({} : World).setMsg m) := rfl
  have hbudget := e.budget_pos m
  rcases attempts_spec e email env (e.budget m) (i := 0)
    (w := ({} : World).setMsg m) none rfl (by omega) with ⟨k', w', -, -, -, hok⟩ | ⟨hno, -⟩
  · rw [hloop, hok] at hrun
    cases hrun
    exact hr rfl
  · exact hno k hk

/-- No `Ack` of the failure path is accepted: those that are made are refused, or a panic of the
dead-letter producer or of the error handler comes before them. -/
def Engine.Spares (e : Engine) (env : Env) (m : Message) : Prop :=
  match e.dlqProducer, env.publish with
  | none, _ => (e.errorHandler = true ∧ env.errorHandler.isSome = true) ∨
      (env.accepts m 0 = false ∧ env.accepts m 1 = false)
  | some _, .returns _ => env.accepts m 0 = false
  | some _, .panics _ => True

namespace Proofs

section Undelivered

variable {codec : Codec} {e : Engine} {cfg : QueueConfig} {co : ConsumeOptions} {env : Env}
  {d : Delivery} {email : Email}

/-- An email caught by the shutdown and not dead-lettered is left with the broker exactly if no
`Ack` is accepted; neither the engine nor the driver holds back. -/
theorem cancelled_unsettled_iff (hmw : e.middlewares = builtinMiddlewares e.queue)
    (hauto : d.autoAck cfg co = false) (hvalid : codec.ValidPayload (d.message cfg).payload email)
    (hend : e.EndsCancelled email env (d.message cfg)) :
    let w := (d.process cfg co (e.processMessage codec) env {}).2
    w.sent = false ∧
      (w.deadLettered = false → (w.settled = false ↔ e.Spares env (d.message cfg))) := by
  dsimp only
  rw [Delivery.process_eq, hauto]
  have hout := deliver_outcome_of_fails hmw hvalid hend.not_delivers
  have hsent : (deliver false (e.processMessage codec) (d.message cfg) env {}).2.sent =
      (failureOutcome e env (d.message cfg)).sent := congrArg Outcome.sent hout
  have hdead : (deliver false (e.processMessage codec) (d.message cfg) env {}).2.deadLettered =
      (failureOutcome e env (d.message cfg)).deadLettered := congrArg Outcome.deadLettered hout
  have hset : (deliver false (e.processMessage codec) (d.message cfg) env {}).2.settled =
      (failureOutcome e env (d.message cfg)).settled := congrArg Outcome.settled hout
  rw [hsent, hdead, hset]
  unfold failureOutcome Engine.Spares
  cases e.dlqProducer with
  | none =>
    refine ⟨rfl, fun _ => ?_⟩
    cases e.errorHandler <;> cases env.errorHandler.isSome <;> simp
  | some producer =>
    rcases env.publish with ⟨_ | err⟩ | v
    · exact ⟨rfl, fun hfalse => by cases hfalse⟩
    · exact ⟨rfl, fun _ => Iff.rfl⟩
    · exact ⟨rfl, fun _ => by simp⟩

end Undelivered

def stoppedEnv : Env := { send := fun _ => .returns none, cancelAt := some 0 }

def memoryDelivery : Delivery := .memory { payload := mailJSON }

def plainEngine : Engine := Engine.new ⟨.memory, {}⟩ none []

theorem cancelled_unsettled_iff_stopped :
    let w := (memoryDelivery.process {} {} (plainEngine.processMessage plainCodec) stoppedEnv {}).2
    w.sent = false ∧ (w.deadLettered = false →
      (w.settled = false ↔ plainEngine.Spares stoppedEnv (memoryDelivery.message {}))) :=
  cancelled_unsettled_iff rfl rfl plainCodec_validPayload ⟨_, _, rfl, by simp, rfl⟩

theorem stop_discards_undelivered :
    plainCodec.accepts (memoryDelivery.message {}).payload = true ∧
    plainEngine.EndsCancelled mail stoppedEnv (memoryDelivery.message {}) ∧
    let w := (memoryDelivery.process {} {} (plainEngine.processMessage plainCodec) stoppedEnv {}).2
    w.sent = false ∧ w.deadLettered = false ∧ w.settled = true :=
  ⟨rfl, ⟨_, _, rfl, by simp, rfl⟩, by decide⟩

end Proofs

/-! ### Emails that are out -/

namespace Event

def settledAtBroker : Event → Bool
  | ack fn _ none => fn.callsBroker
  | _ => false

/-- The broker accepts an acknowledgement exactly if the context it is given is not done. -/
def ackFollowsContext : Event → Bool
  | ack fn ctxDone err => !fn.callsBroker || (err.isNone == !ctxDone)
  | _ => true

lemma settled_of_settledAtBroker {ev : Event} (h : ev.settledAtBroker = true) : ev.settled = true := by
  rcases ev with _ | _ | _ | _ | _ | ⟨fn, done, _ | err⟩ | _ <;> first | rfl | cases h

end Event

def World.settledAtBroker (w : World) : Bool := w.events.any Event.settledAtBroker

lemma World.settledAtBroker_of_unsettled {w : World} (h : w.settled = false) :
    w.settledAtBroker = false := by
  unfold World.settledAtBroker World.settled at *
  rw [List.any_eq_false] at h ⊢
  exact fun ev hev hat => h ev hev (Event.settled_of_settledAtBroker hat)

def Delivery.acksWithContext : Delivery → Bool
  | kafka _ | redisStream .. | sqs .. => true
  | _ => false

/-- Whether an ack of the delivery calls the broker: an SQS message without a receipt handle is
not deleted. -/
def Delivery.ackCallsBroker (cfg : QueueConfig) (d : Delivery) : Bool :=
  match (d.message cfg).ackFn with
  | some fn => fn.callsBroker
  | none => false

namespace Proofs

section Delivered

variable {codec : Codec} {e : Engine} {cfg : QueueConfig} {co : ConsumeOptions} {env : Env}
  {d : Delivery} {email : Email}

lemma process_events_of_delivers {k : Nat} (hmw : e.middlewares = builtinMiddlewares e.queue)
    (hauto : d.autoAck cfg co = false) (hvalid : codec.ValidPayload (d.message cfg).payload email)
    (hctx : d.acksWithContext = true)
    (hk : DeliversAt env e.effectiveInterval 0 (e.budget (d.message cfg)) k) :
    ∃ (w₁ : World) (fn : AckFunc), (d.message cfg).ackFn = some fn ∧ w₁.sent = true ∧
      w₁.settled = false ∧
      (d.process cfg co (e.processMessage codec) env {}).2.events =
        w₁.events ++ [.ack fn (env.done (3 * k + 2)) (env.ackResult fn 0)] := by
  obtain ⟨w₁, hrun, hclock, hview⟩ :=
    Engine.processMessage_delivers (w := ({} : World).setMsg (d.message cfg)) hmw rfl hvalid hk
  rw [view_start] at hview
  have hmsg : w₁.msg = d.message cfg := congrArg View.msg hview
  have hcalls : w₁.ackCalls = 0 := congrArg View.ackCalls hview
  obtain ⟨fn, hfn⟩ := Option.isSome_iff_exists.mp (d.ackFn_isSome cfg)
  have hopen : w₁.msg.acknowledged = false := by
    rw [hmsg, Delivery.acknowledged_eq]
    cases d with
    | memory m => cases hctx
    | _ => rfl
  refine ⟨w₁, fn, hfn, congrArg View.sent hview, congrArg View.settled hview, ?_⟩
  rw [Delivery.process_eq, hauto, deliver_of_ok hrun, ackMessage_of_some hopen (hmsg ▸ hfn), hcalls, hclock]
  rfl

/-- A sent email is acknowledged at the broker exactly if the context is still live when its
`Send` has returned. -/
theorem sent_settled_iff (hmw : e.middlewares = builtinMiddlewares e.queue)
    (hauto : d.autoAck cfg co = false) (hvalid : codec.ValidPayload (d.message cfg).payload email)
    (hctx : d.acksWithContext = true)
    (hbroker : (d.process cfg co (e.processMessage codec) env {}).2.events.all
      Event.ackFollowsContext = true) :
    let w := (d.process cfg co (e.processMessage codec) env {}).2
    (w.sent = true → w.settledAtBroker = true) ↔
      ∀ k, DeliversAt env e.effectiveInterval 0 (e.budget (d.message cfg)) k →
        env.done (3 * k + 2) = false ∧ d.ackCallsBroker cfg = true := by
  dsimp only
  by_cases hdel : e.Delivers env (d.message cfg)
  · obtain ⟨k, hk⟩ := hdel
    obtain ⟨w₁, fn, hfn, hsent, hunset, hev⟩ :=
      process_events_of_delivers hmw hauto hvalid hctx hk
    have hsent' : (d.process cfg co (e.processMessage codec) env {}).2.sent = true := by
      unfold World.sent at hsent ⊢
      rw [hev, List.any_append, hsent, Bool.true_or]
    have hcalls : d.ackCallsBroker cfg = fn.callsBroker := by
      unfold Delivery.ackCallsBroker
      rw [hfn]
    have hset : (d.process cfg co (e.processMessage codec) env {}).2.settledAtBroker =
        ((env.ackResult fn 0).isNone && fn.callsBroker) := by
      have hfalse := World.settledAtBroker_of_unsettled hunset
      unfold World.settledAtBroker at hfalse ⊢
      rw [hev, List.any_append, hfalse]
      cases env.ackResult fn 0 <;> simp [Event.settledAtBroker]
    have hack : fn.callsBroker = true → (env.ackResult fn 0).isNone = !env.done (3 * k + 2) := by
      intro hfnb
      rw [hev, List.all_append, Bool.and_eq_true] at hbroker
      simpa [Event.ackFollowsContext, hfnb] using hbroker.2
    rw [hsent', hset]
    constructor
    · intro h k' hk'
      obtain rfl := hk.unique hk'
      have hboth := h rfl
      rw [Bool.and_eq_true] at hboth
      rw [hack hboth.2] at hboth
      exact ⟨by simpa using hboth.1, hcalls.trans hboth.2⟩
    · intro h _
      obtain ⟨hlive, hfnb⟩ := h k hk
      rw [hcalls] at hfnb
      rw [hack hfnb, hlive, hfnb]
      rfl
  · have hout := congrArg Outcome.sent (deliver_outcome_of_fails hmw hvalid hdel)
    have hsent : (d.process cfg co (e.processMessage codec) env {}).2.sent = false := by
      rw [Delivery.process_eq, hauto]
      refine hout.trans ?_
      unfold failureOutcome
      split <;> rfl
    rw [hsent]
    exact ⟨fun _ k hk => absurd ⟨k, hk⟩ hdel, fun _ hfalse => by cases hfalse⟩

end Delivered

def kafkaDelivery : Delivery := .kafka { topic := "mail", value := mailJSON }

/-- The first `Send` returns nil and the context is cancelled at the given clock; the broker
follows the context. -/
def sentEnv (cancelAt : Nat) : Env :=
  { send := fun _ => .returns none
    cancelAt := some cancelAt
    ack := fun _ => if cancelAt ≤ 2 then some errCanceled else none }

theorem sent_settled_iff_kafka :
    let w := (kafkaDelivery.process {} {} (plainEngine.processMessage plainCodec) (sentEnv 3) {}).2
    (w.sent = true → w.settledAtBroker = true) ↔
      ∀ k, DeliversAt (sentEnv 3) plainEngine.effectiveInterval 0
          (plainEngine.budget (kafkaDelivery.message {})) k →
        (sentEnv 3).done (3 * k + 2) = false ∧ kafkaDelivery.ackCallsBroker {} = true :=
  sent_settled_iff rfl rfl plainCodec_validPayload rfl (by decide)

/-- `Stop` between a successful `Send` and the driver's `Ack`: the offset is not committed and
the email will be sent again. -/
theorem stop_leaves_sent_unsettled :
    plainCodec.accepts (kafkaDelivery.message {}).payload = true ∧
    let w := (kafkaDelivery.process {} {} (plainEngine.processMessage plainCodec) (sentEnv 2) {}).2
    w.events.all Event.ackFollowsContext = true ∧ w.sent = true ∧ w.settledAtBroker = false :=
  ⟨rfl, by decide⟩

end Proofs

end MailBaby
