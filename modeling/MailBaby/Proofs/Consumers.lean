import MailBaby.Driver.RabbitMQ
import MailBaby.Driver.RocketMQ
import MailBaby.Proofs.Pipeline
import MailBaby.Proofs.Requeue

/-!
# What consumers leave with their brokers

RocketMQ drops the whole batch of a callback that returns, so the messages after the first failed one are
lost.
-/

namespace MailBaby

open Lib

/-! ### RocketMQ batches -/

namespace RocketMQ

variable {handler : Handler} {env : Env} {w w' : World} {ext : MessageExt} {invoked before after : List MessageExt}

inductive Handled (handler : Handler) (env : Env) : World → List MessageExt → World → Prop
  | nil (w : World) : Handled handler env w [] w
  | cons {w w₁ w₂ : World} {ext : MessageExt} {rest : List MessageExt}
      (h : handler env (w.setMsg (toMessage ext)) = (.ok none, w₁)) (hrest : Handled handler env w₁ rest w₂) :
      Handled handler env w (ext :: rest) w₂

def FailsAt (handler : Handler) (env : Env) (w : World) (before : List MessageExt) (ext : MessageExt) : Prop :=
  ∃ w₁, Handled handler env w before w₁ ∧ ∃ err w₂, handler env (w₁.setMsg (toMessage ext)) = (.ok (some err), w₂)

/-- No message but the last one of the batch fails. -/
def FailsLast (handler : Handler) (env : Env) (w : World) (exts : List MessageExt) : Prop :=
  ∀ before ext after, exts = before ++ ext :: after → FailsAt handler env w before ext → after = []

lemma callback_fst (handler : Handler) (invoked exts : List MessageExt) (env : Env) (w : World) :
    ((callback handler invoked exts env w).1.map fun _ => (), (callback handler invoked exts env w).2) =
      onMessages handler exts env w := by
  induction exts generalizing invoked w with
  | nil => rfl
  | cons ext rest ih =>
    rw [callback, onMessages, Eff.bind_of_ok (Eff.update_apply _ _ _), Eff.bind_of_ok (Eff.update_apply _ _ _)]
    rcases hrun : handler env (w.setMsg (toMessage ext)) with ⟨_ | (_ | err), w₁⟩
    · rw [Eff.bind_of_error hrun, Eff.bind_of_error hrun]
      rfl
    · rw [Eff.bind_of_ok hrun, Eff.bind_of_ok hrun]
      apply ih
    · rw [Eff.bind_of_ok hrun, Eff.bind_of_ok hrun]
      rfl

lemma callback_of_nil {rest : List MessageExt} (h : handler env (w.setMsg (toMessage ext)) = (.ok none, w')) :
    callback handler invoked (ext :: rest) env w = callback handler (invoked ++ [ext]) rest env w' := by
  rw [callback, Eff.bind_of_ok (Eff.update_apply _ _ _), Eff.bind_of_ok h]

lemma callback_of_err {rest : List MessageExt} {err : GoError}
    (h : handler env (w.setMsg (toMessage ext)) = (.ok (some err), w')) :
    callback handler invoked (ext :: rest) env w = (.ok (.consumeSuccess, invoked ++ [ext]), w') := by
  rw [callback, Eff.bind_of_ok (Eff.update_apply _ _ _), Eff.bind_of_ok h]
  rfl

lemma callback_of_panic {rest : List MessageExt} {v : String}
    (h : handler env (w.setMsg (toMessage ext)) = (.error v, w')) :
    callback handler invoked (ext :: rest) env w = (.error v, w') := by
  rw [callback, Eff.bind_of_ok (Eff.update_apply _ _ _), Eff.bind_of_error h]

lemma callback_of_handled (h : Handled handler env w before w') (invoked after : List MessageExt) :
    callback handler invoked (before ++ after) env w = callback handler (invoked ++ before) after env w' := by
  induction h generalizing invoked with
  | nil w => rw [List.nil_append, List.append_nil]
  | cons hext hrest ih =>
    rw [List.cons_append, callback_of_nil hext, ih, List.append_assoc, List.singleton_append]

lemma callback_returned {exts out : List MessageExt} {r : ConsumeResult}
    (h : callback handler invoked exts env w = (.ok (r, out), w')) :
    ∃ before after, exts = before ++ after ∧ out = invoked ++ before ∧
      (after = [] ∨ ∃ handled ext, before = handled ++ [ext] ∧ FailsAt handler env w handled ext) := by
  induction exts generalizing invoked w with
  | nil =>
    cases h
    exact ⟨[], [], rfl, (List.append_nil _).symm, Or.inl rfl⟩
  | cons ext rest ih =>
    rcases hrun : handler env (w.setMsg (toMessage ext)) with ⟨_ | (_ | err), w₁⟩
    · rw [callback_of_panic hrun] at h
      cases h
    · rw [callback_of_nil hrun] at h
      obtain ⟨before, after, rfl, hout, hend⟩ := ih h
      refine ⟨ext :: before, after, rfl, ?_, ?_⟩
      · rw [hout, List.append_assoc, List.singleton_append]
      · apply hend.imp id
        rintro ⟨handled, last, hbefore, w₂, hhandled, hfails⟩
        exact ⟨ext :: handled, last, congrArg (List.cons ext) hbefore, w₂, .cons hrun hhandled, hfails⟩
    · rw [callback_of_err hrun] at h
      cases h
      exact ⟨[ext], rest, rfl, rfl, Or.inr ⟨[], ext, rfl, w, .nil w, err, _, hrun⟩⟩

/-- A callback that reports success has called the handler once on every message, in their order. -/
def FullyHandled (handler : Handler) (exts : List MessageExt) (env : Env) (w : World) : Prop :=
  ∀ out w', callback handler [] exts env w = (.ok (.consumeSuccess, out), w') → out = exts

end RocketMQ

/-! ### RabbitMQ deliveries -/

/-- A handler that may settle its message, as often as it likes and depending on what that returned, and then
returns. -/
inductive Script
  | finish (result : Option GoError)
  | ack (next : Option GoError → Script)
  | nack (requeue : Bool) (next : Option GoError → Script)

def Script.handler : Script → Handler
  | finish result => pure result
  | ack next => ackMessage >>= fun err => (next err).handler
  | nack requeue next => nackMessage requeue >>= fun err => (next err).handler

namespace Event

/-- A settlement that was sent to the broker. -/
def isSettlement (ev : Event) : Bool := ev.isAck || ev.isNack

def failedSettlement : Event → Bool
  | ack _ _ err => err.isSome
  | nack _ _ _ err => err.isSome
  | _ => false

end Event

namespace RabbitMQ

variable {env : Env} {w : World} {tag : Nat}

structure Carries (w : World) (tag : Nat) : Prop where
  ackFn : w.msg.ackFn = some (.deliveryAck tag)
  nackFn : w.msg.nackFn = some (.deliveryNack tag)

/-- Calls that settle: as many as failed, and one more once the message is settled. -/
structure Settles (w w' : World) (evs : List Event) : Prop where
  events : w'.events = w.events ++ evs
  balance : evs.countP Event.isSettlement + w.msg.acknowledged.toNat =
    evs.countP Event.failedSettlement + w'.msg.acknowledged.toNat

lemma Settles.trans {w w' w'' : World} {evs evs' : List Event} (h : Settles w w' evs) (h' : Settles w' w'' evs') :
    Settles w w'' (evs ++ evs') where
  events := by rw [h'.events, h.events, List.append_assoc]
  balance := by
    have hb := h.balance
    have hb' := h'.balance
    rw [List.countP_append, List.countP_append]
    omega

lemma Settles.refl (w : World) : Settles w w [] := ⟨(List.append_nil _).symm, rfl⟩

lemma settles_open {ev : Event} {err : Option GoError} (hopen : w.msg.acknowledged = false)
    (hev : ev.isSettlement = true) (hfailed : ev.failedSettlement = err.isSome) :
    Settles w ((w.emit ev).setMsg { w.msg with acknowledged := err.isNone }) [ev] where
  events := rfl
  balance := by
    rw [hopen, List.countP_singleton, List.countP_singleton, hev, hfailed]
    cases err <;> rfl

lemma ackMessage_settles (env : Env) (h : Carries w tag) :
    ∃ err w' evs, ackMessage env w = (.ok err, w') ∧ Settles w w' evs ∧ Carries w' tag := by
  cases hack : w.msg.acknowledged with
  | true => exact ⟨_, w, [], ackMessage_of_acknowledged hack, Settles.refl w, h⟩
  | false =>
    exact ⟨_, _, _, ackMessage_of_some hack h.ackFn, settles_open hack rfl rfl, ⟨h.ackFn, h.nackFn⟩⟩

lemma nackMessage_of_some (requeue : Bool) (hopen : w.msg.acknowledged = false)
    (hfn : w.msg.nackFn = some (.deliveryNack tag)) :
    nackMessage requeue env w = (.ok (env.nack w.nackCalls),
      (w.emit (.nack (.deliveryNack tag) requeue (env.done w.clock) (env.nack w.nackCalls))).setMsg
        { w.msg with acknowledged := (env.nack w.nackCalls).isNone }) := by
  have hnack : w.msg.nack runNack requeue env w = (.ok (env.nack w.nackCalls,
      { w.msg with acknowledged := (env.nack w.nackCalls).isNone }),
      w.emit (.nack (.deliveryNack tag) requeue (env.done w.clock) (env.nack w.nackCalls))) := by
    have hrun : ∀ m, runNack (.deliveryNack tag) requeue m env w = (.ok (env.nack w.nackCalls),
        w.emit (.nack (.deliveryNack tag) requeue (env.done w.clock) (env.nack w.nackCalls))) := by
      intro m
      cases requeue <;> rfl
    unfold Message.nack
    rw [if_neg (by simp [hopen]), hfn]
    dsimp only [Message.settle]
    rw [Eff.bind_of_ok (hrun _)]
    cases env.nack w.nackCalls <;> rfl
  unfold nackMessage
  rw [Eff.bind_of_ok (Eff.query_apply env w _), Eff.bind_of_ok hnack]
  rfl

lemma nackMessage_settles (env : Env) (requeue : Bool) (h : Carries w tag) :
    ∃ err w' evs, nackMessage requeue env w = (.ok err, w') ∧ Settles w w' evs ∧ Carries w' tag := by
  cases hack : w.msg.acknowledged with
  | true => exact ⟨_, w, [], Memory.nackMessage_of_acknowledged requeue hack, Settles.refl w, h⟩
  | false =>
    exact ⟨_, _, _, nackMessage_of_some requeue hack h.nackFn, settles_open hack rfl rfl, ⟨h.ackFn, h.nackFn⟩⟩

lemma script_settles (script : Script) (env : Env) (h : Carries w tag) :
    ∃ r w' evs, script.handler env w = (.ok r, w') ∧ Settles w w' evs ∧ Carries w' tag := by
  induction script generalizing w with
  | finish result => exact ⟨result, w, [], rfl, Settles.refl w, h⟩
  | ack next ih =>
    obtain ⟨err, w₁, evs, hrun, hsettles, hcarries⟩ := ackMessage_settles env h
    obtain ⟨r, w₂, evs', hrest, hsettles', hcarries'⟩ := ih err hcarries
    refine ⟨r, w₂, evs ++ evs', ?_, hsettles.trans hsettles', hcarries'⟩
    rw [Script.handler, Eff.bind_of_ok hrun, hrest]
  | nack requeue next ih =>
    obtain ⟨err, w₁, evs, hrun, hsettles, hcarries⟩ := nackMessage_settles env requeue h
    obtain ⟨r, w₂, evs', hrest, hsettles', hcarries'⟩ := ih err hcarries
    refine ⟨r, w₂, evs ++ evs', ?_, hsettles.trans hsettles', hcarries'⟩
    rw [Script.handler, Eff.bind_of_ok hrun, hrest]

lemma carries_toMessage (w : World) (d : Delivery) : Carries (w.setMsg (toMessage d)) d.deliveryTag := ⟨rfl, rfl⟩

def logged {α : Type} (p : Proc α) (env : Env) (w : World) : List Event := (p env w).2.events.drop w.events.length

lemma logged_eq {α : Type} {p : Proc α} {evs : List Event} (h : (p env w).2.events = w.events ++ evs) :
    logged p env w = evs := by
  rw [logged, h, List.drop_left]

lemma countP_settlement_deliver (script : Script) (d : Delivery) (env : Env) (w : World) :
    (logged (deliver false script.handler (toMessage d)) env w).countP Event.isSettlement =
      (logged script.handler env (w.setMsg (toMessage d))).countP Event.failedSettlement + 1 := by
  obtain ⟨r, w₁, evs, hrun, hsettles, hcarries⟩ := script_settles script env (carries_toMessage w d)
  have hlogged : logged script.handler env (w.setMsg (toMessage d)) = evs := by
    apply logged_eq
    rw [hrun, hsettles.events]
  have hbalance := hsettles.balance
  change _ + 0 = _ at hbalance
  rw [hlogged]
  cases hack : w₁.msg.acknowledged with
  | true =>
    -- the handler has settled the message, so the driver does not
    have hend : (deliver false script.handler (toMessage d) env w).2.events = w.events ++ evs := by
      rw [deliver_of_ok hrun, ackMessage_of_acknowledged hack]
      exact hsettles.events
    rw [hack] at hbalance
    rw [logged_eq hend]
    exact hbalance
  | false =>
    have hend : (deliver false script.handler (toMessage d) env w).2.events =
        w.events ++ (evs ++ [.ack (.deliveryAck d.deliveryTag) (env.done w₁.clock)
          (env.ackResult (.deliveryAck d.deliveryTag) w₁.ackCalls)]) := by
      rw [deliver_of_ok hrun, ackMessage_of_some hack hcarries.ackFn, ← List.append_assoc]
      exact congrArg (· ++ _) hsettles.events
    rw [hack] at hbalance
    rw [logged_eq hend, List.countP_append]
    exact congrArg (· + 1) hbalance

lemma deliver_true_eq (script : Script) (m : Message) :
    deliver true script.handler m = deliver false (Script.ack fun _ => script).handler m := by
  funext env w
  unfold deliver
  rw [Eff.bind_of_ok (Eff.update_apply _ _ _), Eff.bind_of_ok (Eff.update_apply _ _ _), Script.handler]
  obtain ⟨err, w₁, hack, -⟩ := ackMessage_view env (w.setMsg m)
  have hdiscard : (discard ackMessage : Proc Unit) env (w.setMsg m) = (.ok (), w₁) := Eff.bind_of_ok hack _
  simp only [if_true, Bool.false_eq_true, if_false]
  rw [Eff.bind_of_ok hdiscard, Eff.bind_assoc, Eff.bind_of_ok hack]

/-- The settlements of a delivery: the one that the broker makes by itself, and those that the driver sends. -/
def settlements (cfg : RabbitMQConfig) (co : ConsumeOptions) (handler : Handler) (d : Delivery) (env : Env)
    (w : World) : Nat :=
  (subscribeAutoAck cfg co).toNat +
    (logged (processDelivery cfg co handler d) env w).countP Event.isSettlement

end RabbitMQ

end MailBaby

namespace MailBaby.Proofs

open Lib

/-- A batch is fully handled exactly if no message but the last one fails. -/
theorem rocketmq_batch_handled_iff (handler : Handler) (exts : List RocketMQ.MessageExt) (env : Env) (w : World) :
    RocketMQ.FullyHandled handler exts env w ↔ RocketMQ.FailsLast handler env w exts := by
  constructor
  · rintro h before ext after rfl ⟨w₁, hhandled, err, w₂, hfails⟩
    have hrun := RocketMQ.callback_of_handled hhandled [] (ext :: after)
    rw [RocketMQ.callback_of_err hfails] at hrun
    have hout := h _ _ hrun
    rw [List.nil_append, List.append_right_inj] at hout
    exact (List.cons.inj hout).2.symm
  · intro h out w' hrun
    obtain ⟨before, after, rfl, rfl, rfl | ⟨handled, ext, rfl, hfails⟩⟩ := RocketMQ.callback_returned hrun
    · exact (List.append_nil _).symm
    · have hafter := h handled ext after (List.append_assoc _ _ _) hfails
      rw [hafter]
      exact (List.append_nil _).symm

/-- The first of two messages fails and the second is dropped with it. -/
theorem rocketmq_message_dropped :
    ¬RocketMQ.FullyHandled (pure (some ⟨"smtp: connection refused"⟩)) [{ msgId := "1" }, { msgId := "2" }]
      { send := fun _ => .returns none } {} := by
  intro h
  have hlength := congrArg List.length (h [{ msgId := "1" }] _ rfl)
  exact absurd hlength (by decide)

/-- A delivery is settled at most once exactly if there is no automatic mode and no settlement of the handler
fails. -/
theorem rabbitmq_settled_once_iff (cfg : RabbitMQConfig) (co : ConsumeOptions) (script : Script)
    (d : RabbitMQ.Delivery) (env : Env) (w : World) :
    RabbitMQ.settlements cfg co script.handler d env w ≤ 1 ↔
      RabbitMQ.subscribeAutoAck cfg co = false ∧
        (RabbitMQ.logged script.handler env (w.setMsg (RabbitMQ.toMessage d))).countP
          Event.failedSettlement = 0 := by
  unfold RabbitMQ.settlements RabbitMQ.processDelivery RabbitMQ.subscribeAutoAck
  rw [Bool.or_comm co.autoAck]
  cases cfg.autoAck || co.autoAck with
  | false =>
    rw [RabbitMQ.countP_settlement_deliver]
    simp
  | true =>
    rw [RabbitMQ.deliver_true_eq, RabbitMQ.countP_settlement_deliver]
    simp

/-- With the automatic mode of the broker the driver acknowledges as well. -/
theorem rabbitmq_settled_twice :
    RabbitMQ.settlements { autoAck := true } {} (Script.finish none).handler {}
        { send := fun _ => .returns none } {} =
      2 := rfl

end MailBaby.Proofs
