import MailBaby.App
import MailBaby.Proofs.Retry

/-!
# Settlement of a delivery

A `View` keeps what the guarantees of the pipeline are about: whether the email was sent, the message
dead-lettered, an acknowledgement accepted.
-/

namespace MailBaby

open Lib

structure View where
  msg : Message
  sent : Bool := false
  deadLettered : Bool := false
  settled : Bool := false
  ackCalls : Nat := 0

def World.view (w : World) : View := ⟨w.msg, w.sent, w.deadLettered, w.settled, w.ackCalls⟩

@[simp] lemma World.view_sent (w : World) : w.view.sent = w.sent := rfl
@[simp] lemma World.view_deadLettered (w : World) : w.view.deadLettered = w.deadLettered := rfl
@[simp] lemma World.view_settled (w : World) : w.view.settled = w.settled := rfl

namespace View

def ack (env : Env) (v : View) : View :=
  if v.msg.acknowledged then v
  else match v.msg.ackFn with
    | none => v
    | some fn =>
      let err := env.ackResult fn v.ackCalls
      { v with
        msg := { v.msg with acknowledged := err.isNone }
        settled := v.settled || err.isNone
        ackCalls := v.ackCalls + 1 }

/-- The engine on a valid email that no attempt delivers. The flag tells whether the handler
returns, as opposed to a panic of the dead-letter producer or of the error handler. -/
def fail (e : Engine) (env : Env) (v : View) : View × Bool :=
  let finish (v : View) : View × Bool :=
    if e.errorHandler && env.errorHandler.isSome then (v, false) else (v.ack env, true)
  match e.dlqProducer, env.publish with
  | none, _ => finish v
  | some _, .returns none => finish { v with deadLettered := true }
  | some _, .returns (some _) => (v, true)
  | some _, .panics _ => (v, false)

end View

lemma Idles.view_eq {w w' : World} (h : Idles w w') : w'.view = w.view := by
  unfold World.view
  rw [h.msg, h.sent_eq, h.deadLettered_eq, h.settled_eq, h.ackCalls_eq]

lemma ackMessage_of_acknowledged {env : Env} {w : World} (h : w.msg.acknowledged = true) :
    ackMessage env w = (.ok none, w) := by
  have hack : w.msg.ack runAck env w = (.ok (none, w.msg), w) := by
    unfold Message.ack
    rw [if_pos h]
    rfl
  unfold ackMessage
  rw [Eff.bind_of_ok (Eff.query_apply env w _), Eff.bind_of_ok hack]
  rfl

lemma ackMessage_of_none {env : Env} {w : World} (h : w.msg.acknowledged = false)
    (hfn : w.msg.ackFn = none) : ackMessage env w = (.ok (some errAckNotSupported), w) := by
  have hack : w.msg.ack runAck env w = (.ok (some errAckNotSupported, w.msg), w) := by
    unfold Message.ack
    rw [if_neg (by simp [h]), hfn]
    rfl
  unfold ackMessage
  rw [Eff.bind_of_ok (Eff.query_apply env w _), Eff.bind_of_ok hack]
  rfl

lemma ackMessage_of_some {env : Env} {w : World} {fn : AckFunc} (h : w.msg.acknowledged = false)
    (hfn : w.msg.ackFn = some fn) :
    ackMessage env w = (.ok (env.ackResult fn w.ackCalls),
      (w.emit (.ack fn (env.done w.clock) (env.ackResult fn w.ackCalls))).setMsg
        { w.msg with acknowledged := (env.ackResult fn w.ackCalls).isNone }) := by
  have hack : w.msg.ack runAck env w = (.ok (env.ackResult fn w.ackCalls,
      { w.msg with acknowledged := (env.ackResult fn w.ackCalls).isNone }),
      w.emit (.ack fn (env.done w.clock) (env.ackResult fn w.ackCalls))) := by
    unfold Message.ack
    rw [if_neg (by simp [h]), hfn]
    have hrun : runAck fn env w = (.ok (env.ackResult fn w.ackCalls),
        w.emit (.ack fn (env.done w.clock) (env.ackResult fn w.ackCalls))) := rfl
    dsimp only [Message.settle]
    rw [Eff.bind_of_ok hrun]
    cases env.ackResult fn w.ackCalls <;> rfl
  unfold ackMessage
  rw [Eff.bind_of_ok (Eff.query_apply env w _), Eff.bind_of_ok hack]
  rfl

lemma ackMessage_view (env : Env) (w : World) :
    ∃ err w', ackMessage env w = (.ok err, w') ∧ w'.view = w.view.ack env := by
  cases hack : w.msg.acknowledged with
  | true =>
    refine ⟨_, _, ackMessage_of_acknowledged hack, ?_⟩
    unfold View.ack
    rw [if_pos (by exact hack)]
  | false =>
    have hneg : ¬w.view.msg.acknowledged = true := by
      change ¬w.msg.acknowledged = true
      simp [hack]
    cases hfn : w.msg.ackFn with
    | none =>
      refine ⟨_, _, ackMessage_of_none hack hfn, ?_⟩
      have hfn' : w.view.msg.ackFn = none := hfn
      unfold View.ack
      rw [if_neg hneg, hfn']
    | some fn =>
      refine ⟨_, _, ackMessage_of_some hack hfn, ?_⟩
      have hfn' : w.view.msg.ackFn = some fn := hfn
      unfold View.ack
      rw [if_neg hneg, hfn']
      simp only [World.view, World.sent, World.deadLettered, World.settled, World.ackCalls,
        World.setMsg_msg, World.setMsg_events, World.emit_events, List.any_append, List.countP_append]
      cases env.ackResult fn (List.countP Event.isAck w.events) <;>
        simp [Event.delivered, Event.deadLettered, Event.settled, Event.isAck]

/-! ### The engine -/

namespace Engine

variable {e : Engine} {env : Env} {w w₁ : World} {email : Email}

lemma chain_of_ok {q : Queue} {final : ProcessFunc} {r : Option GoError}
    (h : final email env (w.record (.queueReceived q.driver.name q.name)) = (.ok r, w₁)) :
    ∃ w', buildChain (builtinMiddlewares q) final email env w = (.ok r, w') ∧ w'.msg = w₁.msg ∧
      w'.events = w₁.events := by
  have hstage : ∃ w', metricsMiddleware q.driver.name q.name (loggingMiddleware final) email env w =
      (.ok r, w') ∧ w'.msg = w₁.msg ∧ w'.events = w₁.events := by
    have hlog : loggingMiddleware final email env (w.record (.queueReceived q.driver.name q.name)) =
        (.ok r, w₁) := h
    refine ⟨w₁.recordAll (outcomeMetrics q.driver.name q.name email r), ?_, rfl, rfl⟩
    unfold metricsMiddleware
    rw [Eff.bind_of_ok (Eff.update_apply env w _), Eff.bind_of_ok hlog]
    rfl
  obtain ⟨w', hrun, hm, he⟩ := hstage
  exact ⟨w', Eff.recover_of_ok hrun _, hm, he⟩

lemma chain_of_error {q : Queue} {final : ProcessFunc} {v : String}
    (h : final email env (w.record (.queueReceived q.driver.name q.name)) = (.error v, w₁)) :
    buildChain (builtinMiddlewares q) final email env w = (.ok (some ⟨"runtime panic: " ++ v⟩), w₁) := by
  have hstage : metricsMiddleware q.driver.name q.name (loggingMiddleware final) email env w =
      (.error v, w₁) := by
    have hlog : loggingMiddleware final email env (w.record (.queueReceived q.driver.name q.name)) =
        (.error v, w₁) := h
    unfold metricsMiddleware
    rw [Eff.bind_of_ok (Eff.update_apply env w _), Eff.bind_of_error hlog]
  exact Eff.recover_of_error hstage _

def Delivers (e : Engine) (env : Env) (m : Message) : Prop :=
  ∃ k, DeliversAt env e.effectiveInterval 0 (e.budget m) k

lemma budget_pos (e : Engine) (m : Message) : 0 < e.budget m := by
  unfold budget startAttempt
  dsimp only
  split_ifs <;> omega

lemma chain_spec (email : Email) (env : Env) (hmw : e.middlewares = builtinMiddlewares e.queue)
    (hw : w.clock = 0) :
    (∃ k w', DeliversAt env e.effectiveInterval 0 (e.budget w.msg) k ∧
      buildChain e.middlewares e.sendWithRetry email env w = (.ok none, w') ∧
      w'.clock = 3 * k + 2 ∧ w'.view = { w.view with sent := true }) ∨
    (¬e.Delivers env w.msg ∧ ∃ err w',
      buildChain e.middlewares e.sendWithRetry email env w = (.ok (some err), w') ∧ Idles w w') := by
  let w₀ := w.record (.queueReceived e.queue.driver.name e.queue.name)
  have hw₀ : Idles w w₀ := Idles.of_same rfl rfl
  have hloop : e.sendWithRetry email env w₀ = attempts e email (e.budget w.msg) 0 none env w₀ := rfl
  have hbudget := e.budget_pos w.msg
  rw [hmw]
  rcases attempts_spec e email env (e.budget w.msg) (i := 0) (w := w₀) none hw (by omega) with
    ⟨k, w', hk, hidle, hclock, hrun⟩ | ⟨hno, r, w', hrun, hr, hidle⟩
  · obtain ⟨w₂, hchain, hm, he⟩ := chain_of_ok (hloop.trans hrun)
    refine Or.inl ⟨k, w₂, hk, hchain, ?_, ?_⟩
    · unfold World.clock at hclock ⊢
      rw [he, World.emit_events, List.length_append, List.length_singleton, hclock]
    · have hsame : w₂.view = (w'.emit (.send email (.returns none))).view :=
        (Idles.of_same hm he).view_eq
      have hview := (hw₀.trans hidle).view_eq
      rw [hsame, ← hview]
      simp [World.view, World.sent, World.deadLettered, World.settled, World.ackCalls, Event.delivered,
        Event.deadLettered, Event.settled, Event.isAck]
  · refine Or.inr ⟨not_exists.mpr hno, ?_⟩
    rcases r with v | _ | err
    · exact ⟨_, w', chain_of_error (hloop.trans hrun), hw₀.trans hidle⟩
    · exact absurd rfl hr
    · obtain ⟨w₂, hchain, hm, he⟩ := chain_of_ok (hloop.trans hrun)
      exact ⟨err, w₂, hchain, (hw₀.trans hidle).trans (Idles.of_same hm he)⟩

def finish (e : Engine) (err : GoError) : Proc (Option GoError) := do
  e.notifyErrorHandler err
  discard ackMessage
  pure none

def routed (e : Engine) (w : World) : World :=
  (w.count fun s => { s with totalDeadLetter := s.totalDeadLetter + 1 }).record
    (.queueDeadLetter e.queue.driver.name e.queue.name)

lemma routeToDLQ_of_none (hd : e.dlqProducer = none) (err : GoError) :
    e.routeToDLQ err env w = e.finish err env (e.routed w) := by
  have hpub : e.publishDeadLetter err env (e.routed w) = (.ok none, e.routed w) := by
    unfold publishDeadLetter
    rw [hd]
    rfl
  change (e.publishDeadLetter err >>= _) env (e.routed w) = _
  rw [Eff.bind_of_ok hpub]
  rfl

section Producer

variable {producer : Queue} (hd : e.dlqProducer = some producer) (err : GoError)
include hd

lemma publishDeadLetter_of_some (env : Env) (w : World) : e.publishDeadLetter err env (e.routed w) =
    call Env.publish (Event.publish (e.deadLetter w.msg err)) env (e.routed w) := by
  unfold publishDeadLetter
  rw [hd]
  rfl

lemma routeToDLQ_of_published (hres : env.publish = .returns none) :
    e.routeToDLQ err env w =
      e.finish err env ((e.routed w).emit (.publish (e.deadLetter w.msg err) (.returns none))) := by
  have hpub := publishDeadLetter_of_some hd err env w
  unfold call at hpub
  rw [hres] at hpub
  change (e.publishDeadLetter err >>= _) env (e.routed w) = _
  rw [Eff.bind_of_ok hpub]
  rfl

lemma routeToDLQ_of_refused {dlqErr : GoError} (hres : env.publish = .returns (some dlqErr)) :
    e.routeToDLQ err env w = (.ok (some ⟨"runtime: DLQ publish failed: " ++ dlqErr.text⟩),
      (e.routed w).emit (.publish (e.deadLetter w.msg err) (.returns (some dlqErr)))) := by
  have hpub := publishDeadLetter_of_some hd err env w
  unfold call at hpub
  rw [hres] at hpub
  change (e.publishDeadLetter err >>= _) env (e.routed w) = _
  rw [Eff.bind_of_ok hpub]
  rfl

lemma routeToDLQ_of_panics {v : String} (hres : env.publish = .panics v) :
    e.routeToDLQ err env w = (.error v,
      (e.routed w).emit (.publish (e.deadLetter w.msg err) (.panics v))) := by
  have hpub := publishDeadLetter_of_some hd err env w
  unfold call at hpub
  rw [hres] at hpub
  change (e.publishDeadLetter err >>= _) env (e.routed w) = _
  rw [Eff.bind_of_error hpub]

end Producer

lemma finish_view (e : Engine) (err : GoError) (env : Env) (w : World) :
    ∃ r w', e.finish err env w = (r, w') ∧
      (w'.view, r.isOk) = if e.errorHandler && env.errorHandler.isSome then (w.view, false)
        else (w.view.ack env, true) := by
  have hdone : ∀ w₁ : World, Idles w w₁ → e.notifyErrorHandler err env w = (.ok (), w₁) →
      ∃ r w', e.finish err env w = (r, w') ∧ (w'.view, r.isOk) = (w.view.ack env, true) := by
    intro w₁ hidle hnotify
    obtain ⟨ackErr, w₂, hack, hview⟩ := ackMessage_view env w₁
    have hdiscard : (discard ackMessage : Proc PUnit) env w₁ = (.ok ⟨⟩, w₂) := Eff.bind_of_ok hack _
    refine ⟨.ok none, w₂, ?_, by rw [hview, hidle.view_eq]; rfl⟩
    unfold finish
    rw [Eff.bind_of_ok hnotify, Eff.bind_of_ok hdiscard]
    rfl
  cases he : e.errorHandler with
  | false =>
    have hnotify : e.notifyErrorHandler err env w = (.ok (), w) := by
      simp [notifyErrorHandler, he]
    exact hdone w (Idles.refl w) hnotify
  | true =>
    cases hh : env.errorHandler with
    | none =>
      have hnotify : e.notifyErrorHandler err env w = (.ok (), w.emit (.errorHandler err none)) := by
        simp [notifyErrorHandler, he, hh]
      exact hdone _ (Idles.emit w _ rfl) hnotify
    | some v =>
      have hnotify : e.notifyErrorHandler err env w = (.error v, w.emit (.errorHandler err (some v))) := by
        simp [notifyErrorHandler, he, hh]
      refine ⟨.error v, _, Eff.bind_of_error hnotify _, ?_⟩
      rw [(Idles.emit w (.errorHandler err (some v)) rfl).view_eq]
      rfl

lemma routeToDLQ_view (e : Engine) (err : GoError) (env : Env) (w : World) :
    ∃ r w', e.routeToDLQ err env w = (r, w') ∧ (w'.view, r.isOk) = w.view.fail e env := by
  have hw : (e.routed w).view = w.view := (Idles.of_same rfl rfl : Idles w (e.routed w)).view_eq
  unfold View.fail
  cases hd : e.dlqProducer with
  | none =>
    rw [routeToDLQ_of_none hd, ← hw]
    exact finish_view e err env _
  | some producer =>
    rcases hres : env.publish with ⟨_ | dlqErr⟩ | v
    · have hview : ((e.routed w).emit (.publish (e.deadLetter w.msg err) (.returns none))).view =
          { w.view with deadLettered := true } := by
        rw [← hw]
        simp [World.view, World.sent, World.deadLettered, World.settled, World.ackCalls,
          Event.delivered, Event.deadLettered, Event.settled, Event.isAck]
      rw [routeToDLQ_of_published hd err hres]
      dsimp only
      rw [← hview]
      exact finish_view e err env _
    · refine ⟨_, _, routeToDLQ_of_refused hd err hres, ?_⟩
      rw [(Idles.emit (e.routed w) (.publish _ (.returns (some dlqErr))) rfl).view_eq, hw]
      rfl
    · refine ⟨_, _, routeToDLQ_of_panics hd err hres, ?_⟩
      rw [(Idles.emit (e.routed w) (.publish _ (.panics v)) rfl).view_eq, hw]
      rfl

lemma processEmail_of_failed {err : GoError} {r : Except String (Option GoError)} {w₂ : World}
    (hrun : buildChain e.middlewares e.sendWithRetry email env w = (.ok (some err), w₁))
    (hroute : e.routeToDLQ err env (w₁.count fun s => { s with totalFailed := s.totalFailed + 1 }) =
      (r, w₂)) :
    e.processEmail email env w = (r.map fun dlqErr => some (dlqErr.getD err), w₂) := by
  unfold processEmail
  rw [Eff.bind_of_ok hrun]
  change (e.routeToDLQ err >>= _) env _ = _
  rcases r with v | _ | dlqErr
  · rw [Eff.bind_of_error hroute]
    rfl
  · rw [Eff.bind_of_ok hroute]
    rfl
  · rw [Eff.bind_of_ok hroute]
    rfl

lemma processMessage_of_valid {codec : Codec} (e : Engine) (env : Env)
    (h : codec.ValidPayload w.msg.payload email) :
    ∃ w₀, w₀.msg = w.msg ∧ w₀.events = w.events ∧
      (e.processMessage codec env w).1 = (e.processEmail email env w₀).1 ∧
      (e.processMessage codec env w).2.msg = (e.processEmail email env w₀).2.msg ∧
      (e.processMessage codec env w).2.events = (e.processEmail email env w₀).2.events := by
  obtain ⟨hne, hdec, hval⟩ := h
  let w₀ := w.count fun s => { s with inFlight := s.inFlight + 1, totalReceived := s.totalReceived + 1 }
  have hbody : handlePayload codec e env w₀ = e.processEmail email env w₀ := by
    have hm : w₀.msg = w.msg := rfl
    unfold handlePayload
    rw [Eff.bind_of_ok (Eff.query_apply env w₀ _), hm, if_neg hne, hdec]
    simp only [hval]
  have hrun : e.processMessage codec env w = ((handlePayload codec e env w₀).1,
      (handlePayload codec e env w₀).2.count fun s => { s with inFlight := s.inFlight - 1 }) := rfl
  rw [hbody] at hrun
  refine ⟨w₀, rfl, rfl, ?_⟩
  rw [hrun]
  exact ⟨rfl, rfl, rfl⟩

theorem processMessage_delivers {codec : Codec} {k : Nat}
    (hmw : e.middlewares = builtinMiddlewares e.queue) (hw : w.events = [])
    (hvalid : codec.ValidPayload w.msg.payload email)
    (hk : DeliversAt env e.effectiveInterval 0 (e.budget w.msg) k) :
    ∃ w', e.processMessage codec env w = (.ok none, w') ∧ w'.clock = 3 * k + 2 ∧
      w'.view = { w.view with sent := true } := by
  obtain ⟨w₀, hm₀, he₀, hres, hm, he⟩ := processMessage_of_valid e env hvalid
  have hclock : w₀.clock = 0 := by
    unfold World.clock
    rw [he₀, hw]
    rfl
  rw [← hm₀] at hk
  rcases chain_spec email env hmw hclock with
    ⟨k', w₁, hk', hrun, hclock₁, hview⟩ | ⟨hno, _⟩
  · have hemail : e.processEmail email env w₀ =
        (.ok none, w₁.count fun s => { s with totalSuccess := s.totalSuccess + 1 }) := by
      unfold processEmail
      rw [Eff.bind_of_ok hrun]
      rfl
    rw [hemail] at hres hm he
    have hsame : Idles w₁ (e.processMessage codec env w).2 := Idles.of_same hm he
    refine ⟨(e.processMessage codec env w).2, Prod.ext hres rfl, ?_, ?_⟩
    · unfold World.clock at hclock₁ ⊢
      rw [he, World.count_events, hclock₁, hk.unique hk']
    · rw [hsame.view_eq, hview, (Idles.of_same hm₀ he₀).view_eq]
  · exact absurd ⟨k, hk⟩ hno

theorem processMessage_fails {codec : Codec} (hmw : e.middlewares = builtinMiddlewares e.queue)
    (hw : w.events = []) (hvalid : codec.ValidPayload w.msg.payload email)
    (hno : ¬e.Delivers env w.msg) :
    ((e.processMessage codec env w).2.view, (e.processMessage codec env w).1.isOk) =
      w.view.fail e env := by
  obtain ⟨w₀, hm₀, he₀, hres, hm, he⟩ := processMessage_of_valid e env hvalid
  have hclock : w₀.clock = 0 := by
    unfold World.clock
    rw [he₀, hw]
    rfl
  rw [← hm₀] at hno
  rw [(Idles.of_same hm he).view_eq, hres]
  rcases chain_spec email env hmw hclock with
    ⟨k, w₁, hk, _⟩ | ⟨_, err, w₁, hrun, hidle⟩
  · exact absurd ⟨k, hk⟩ hno
  · let w₂ := w₁.count fun s => { s with totalFailed := s.totalFailed + 1 }
    have hw₂ : w₂.view = w.view := by
      rw [← (Idles.of_same hm₀ he₀).view_eq, ← hidle.view_eq]
      rfl
    obtain ⟨r, w₃, hroute, hfail⟩ := routeToDLQ_view e err env w₂
    rw [processEmail_of_failed hrun hroute, ← hw₂, ← hfail]
    cases r <;> rfl

end Engine

/-! ### The drivers' per-message functions -/

lemma deliver_of_ok {handler : Handler} {m : Message} {env : Env} {w w₁ : World} {err : Option GoError}
    (h : handler env (w.setMsg m) = (.ok err, w₁)) :
    (deliver false handler m env w).2 = (ackMessage env w₁).2 := by
  have hrun : deliver false handler m env w =
      (if err.isSome && !w₁.msg.isAcknowledged then discard ackMessage
      else if err.isNone && !w₁.msg.isAcknowledged then discard ackMessage
      else pure () : Proc Unit) env w₁ := by
    have hcont : deliver false handler m env w = (handler >>= fun err => do
        let m' ← Eff.query fun _ w => w.msg
        if err.isSome && !m'.isAcknowledged then discard ackMessage
        else if err.isNone && !m'.isAcknowledged then discard ackMessage
        else pure ()) env (w.setMsg m) := rfl
    rw [hcont, Eff.bind_of_ok h, Eff.bind_of_ok (Eff.query_apply env w₁ _)]
  obtain ⟨r, w₂, hack, -⟩ := ackMessage_view env w₁
  have hdiscard : (discard ackMessage : Proc Unit) env w₁ = (.ok (), w₂) := Eff.bind_of_ok hack _
  rw [hrun]
  cases hflag : w₁.msg.acknowledged with
  | true =>
    rw [ackMessage_of_acknowledged hflag]
    simp [Message.isAcknowledged, hflag]
  | false =>
    rw [hack]
    cases err <;> simp [Message.isAcknowledged, hflag, hdiscard]

lemma deliver_of_error {handler : Handler} {m : Message} {env : Env} {w w₁ : World} {v : String}
    (h : handler env (w.setMsg m) = (.error v, w₁)) : (deliver false handler m env w).2 = w₁ := by
  have hcont : deliver false handler m env w = (handler >>= fun err => do
      let m' ← Eff.query fun _ w => w.msg
      if err.isSome && !m'.isAcknowledged then discard ackMessage
      else if err.isNone && !m'.isAcknowledged then discard ackMessage
      else pure ()) env (w.setMsg m) := rfl
  rw [hcont, Eff.bind_of_error h]

/-- `Ack` on message `m` is accepted when it is the ack call number `n`. -/
def Env.accepts (env : Env) (m : Message) (n : Nat) : Bool :=
  !m.acknowledged && match m.ackFn with
    | none => false
    | some fn => (env.ackResult fn n).isNone

namespace View

variable (env : Env) (v : View)

@[simp] lemma ack_sent : (v.ack env).sent = v.sent := by
  unfold ack
  split_ifs
  · rfl
  · split <;> rfl

@[simp] lemma ack_deadLettered : (v.ack env).deadLettered = v.deadLettered := by
  unfold ack
  split_ifs
  · rfl
  · split <;> rfl

lemma ack_settled : (v.ack env).settled = (v.settled || env.accepts v.msg v.ackCalls) := by
  unfold ack Env.accepts
  split_ifs with h
  · simp [h]
  · split <;> simp_all

lemma ack_ack_settled : ((v.ack env).ack env).settled =
    (v.settled || env.accepts v.msg v.ackCalls || env.accepts v.msg (v.ackCalls + 1)) := by
  rw [ack_settled, ack_settled, Bool.or_assoc, Bool.or_assoc]
  congr 1
  unfold ack Env.accepts
  cases hack : v.msg.acknowledged with
  | true => simp [hack]
  | false =>
    cases hfn : v.msg.ackFn with
    | none => simp [hack, hfn]
    | some fn => cases hres : env.ackResult fn v.ackCalls <;> simp [hfn, hres]

end View

structure Outcome where
  sent : Bool
  deadLettered : Bool
  settled : Bool
  deriving DecidableEq, Repr

def World.outcome (w : World) : Outcome := ⟨w.sent, w.deadLettered, w.settled⟩

def View.outcome (v : View) : Outcome := ⟨v.sent, v.deadLettered, v.settled⟩

def failureOutcome (e : Engine) (env : Env) (m : Message) : Outcome :=
  let panics := e.errorHandler && env.errorHandler.isSome
  match e.dlqProducer, env.publish with
  | none, _ => ⟨false, false, !panics && (env.accepts m 0 || env.accepts m 1)⟩
  | some _, .returns none => ⟨false, true, !panics && (env.accepts m 0 || env.accepts m 1)⟩
  | some _, .returns (some _) => ⟨false, false, env.accepts m 0⟩
  | some _, .panics _ => ⟨false, false, false⟩

section Deliver

variable {codec : Codec} {e : Engine} {env : Env} {m : Message} {email : Email}

lemma view_start (m : Message) : (({} : World).setMsg m).view = { msg := m } := rfl

theorem deliver_outcome_of_delivers (hmw : e.middlewares = builtinMiddlewares e.queue)
    (hvalid : codec.ValidPayload m.payload email) (h : e.Delivers env m) :
    (deliver false (e.processMessage codec) m env {}).2.outcome = ⟨true, false, env.accepts m 0⟩ := by
  obtain ⟨k, hk⟩ := h
  obtain ⟨w₁, hrun, -, hview⟩ :=
    Engine.processMessage_delivers (w := ({} : World).setMsg m) hmw rfl hvalid hk
  obtain ⟨err, w₂, hack, hview₂⟩ := ackMessage_view env w₁
  have hfinal : w₂.view.outcome = ⟨true, false, env.accepts m 0⟩ := by
    rw [hview₂, hview, view_start]
    simp [View.outcome, View.ack_settled]
  rw [deliver_of_ok hrun, hack]
  exact hfinal

theorem deliver_outcome_of_fails (hmw : e.middlewares = builtinMiddlewares e.queue)
    (hvalid : codec.ValidPayload m.payload email) (h : ¬e.Delivers env m) :
    (deliver false (e.processMessage codec) m env {}).2.outcome = failureOutcome e env m := by
  have hfail := Engine.processMessage_fails (w := ({} : World).setMsg m) hmw rfl hvalid h
  rw [view_start] at hfail
  have hend : (deliver false (e.processMessage codec) m env {}).2.view.outcome =
      (if (View.fail e env { msg := m }).2 then (View.fail e env { msg := m }).1.ack env
        else (View.fail e env { msg := m }).1).outcome := by
    rw [← hfail]
    rcases hrun : e.processMessage codec env (({} : World).setMsg m) with ⟨v | err, w₁⟩
    · rw [deliver_of_error hrun]
      rfl
    · obtain ⟨r, w₂, hack, hview⟩ := ackMessage_view env w₁
      rw [deliver_of_ok hrun, hack]
      exact congrArg View.outcome hview
  have hview : (deliver false (e.processMessage codec) m env {}).2.outcome =
      (deliver false (e.processMessage codec) m env {}).2.view.outcome := rfl
  rw [hview, hend]
  unfold View.fail failureOutcome
  cases e.dlqProducer with
  | none =>
    cases e.errorHandler && env.errorHandler.isSome <;>
      simp [View.outcome, View.ack_ack_settled]
  | some producer =>
    rcases env.publish with ⟨_ | err⟩ | v
    · cases e.errorHandler && env.errorHandler.isSome <;>
        simp [View.outcome, View.ack_ack_settled]
    · simp [View.outcome, View.ack_settled]
    · simp [View.outcome]

end Deliver

end MailBaby
