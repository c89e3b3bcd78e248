import MailBaby.Proofs.Pipeline
import MailBaby.Runtime.Invocations

/-!
# An invocation is a call of `processMessage`

`Phase.resume` is what is left of `processMessage` from a phase on.
-/

namespace MailBaby

open Lib

lemma ackMessage_logs (env : Env) (w : World) :
    ∃ err w' evs, ackMessage env w = (.ok err, w') ∧ w'.stats = w.stats ∧
      w'.events = w.events ++ evs ∧ ∀ ev ∈ evs, ev.isAck = true := by
  cases hack : w.msg.acknowledged with
  | true => exact ⟨_, w, [], ackMessage_of_acknowledged hack, rfl, (List.append_nil _).symm, by simp⟩
  | false =>
    cases hfn : w.msg.ackFn with
    | none => exact ⟨_, w, [], ackMessage_of_none hack hfn, rfl, (List.append_nil _).symm, by simp⟩
    | some fn =>
      refine ⟨_, _, _, ackMessage_of_some hack hfn, rfl, rfl, ?_⟩
      intro ev hev
      rw [List.mem_singleton] at hev
      rw [hev]
      rfl

namespace Engine

variable {e : Engine} {env : Env} {w : World} {err : GoError}

lemma publishDeadLetter_of_none (h : e.dlqProducer = none) :
    e.publishDeadLetter err env w = (.ok none, w) := by
  unfold publishDeadLetter
  rw [h]
  rfl

lemma publishDeadLetter_of_returns {q : Queue} {r : Option GoError} (h : e.dlqProducer = some q)
    (hres : env.publish = .returns r) :
    e.publishDeadLetter err env w = (.ok r, w.emit (.publish (e.deadLetter w.msg err) (.returns r))) := by
  have hcall : e.publishDeadLetter err env w =
      call Env.publish (Event.publish (e.deadLetter w.msg err)) env w := by
    unfold publishDeadLetter
    rw [h]
    rfl
  rw [hcall]
  unfold call
  rw [hres]

lemma notifyErrorHandler_of_returns (e : Engine) (err : GoError) (w : World) (hres : env.errorHandler = none) :
    e.notifyErrorHandler err env w =
      (.ok (), if e.errorHandler then w.emit (.errorHandler err none) else w) := by
  unfold notifyErrorHandler
  cases e.errorHandler with
  | false => rfl
  | true => simp only [hres, if_true]

end Engine

namespace Invocation

def Failure.Arises (codec : Codec) (msg : Option Message) : Failure → Prop
  | absent => msg = none
  | empty => ∃ m, msg = some m ∧ m.payload = []
  | rejected _ => ∃ m, msg = some m ∧ m.payload ≠ [] ∧ ∀ email, ¬codec.ValidPayload m.payload email
  | exhausted _ => ∃ m email, msg = some m ∧ codec.ValidPayload m.payload email

lemma classify_cases (codec : Codec) (msg : Option Message) :
    (∃ f, classify codec msg = .failing f ∧ f.Arises codec msg) ∨
    ∃ m email, classify codec msg = .chain email ∧ msg = some m ∧ codec.ValidPayload m.payload email := by
  cases msg with
  | none => exact Or.inl ⟨.absent, rfl, rfl⟩
  | some m =>
    by_cases hempty : m.payload = []
    · exact Or.inl ⟨.empty, if_pos hempty, m, rfl, hempty⟩
    · have hpayload : classify codec (some m) = _ := if_neg hempty
      cases hdec : codec.unmarshalEmail m.payload with
      | error err =>
        rw [hdec] at hpayload
        refine Or.inl ⟨_, hpayload, m, rfl, hempty, fun email hvalid => ?_⟩
        obtain ⟨-, hok, -⟩ := hvalid
        rw [hdec] at hok
        cases hok
      | ok email =>
        rw [hdec] at hpayload
        dsimp only at hpayload
        cases hval : email.validate codec with
        | none =>
          rw [hval] at hpayload
          exact Or.inr ⟨m, email, hpayload, rfl, hempty, hdec, hval⟩
        | some err =>
          rw [hval] at hpayload
          refine Or.inl ⟨_, hpayload, m, rfl, hempty, fun email' hvalid => ?_⟩
          obtain ⟨-, hok, hnone⟩ := hvalid
          rw [hdec] at hok
          cases hok
          rw [hval] at hnone
          cases hnone

/-! ### One step of an invocation -/

variable {codec : Codec} {e : Engine} {t t' : Invocation} {p : Phase}

lemma perform_of_ok {α : Type} {t : Invocation} {p : Proc α} {a : α} {w : World} {evs : List Event}
    (h : p t.input.env t.world = (.ok a, w)) (hevs : w.events = t.world.events ++ evs)
    (next : α → Phase) :
    t.perform p next = some { t with phase := next a, world := w, own := t.own ++ evs } := by
  unfold perform
  rw [h]
  dsimp only
  rw [hevs, List.drop_left]

lemma perform_of_quiet {α : Type} {t : Invocation} {p : Proc α} {a : α} {w : World}
    (h : p t.input.env t.world = (.ok a, w)) (hevs : w.events = t.world.events) (next : α → Phase) :
    t.perform p next = some { t with phase := next a, world := w } := by
  rw [perform_of_ok h (hevs.trans (List.append_nil _).symm), List.append_nil]

lemma count_eq (t : Invocation) (f : Stats → Stats) (next : Phase) :
    t.count f next = some { t with phase := next, world := t.world.count f } :=
  perform_of_quiet (p := Eff.update (World.count · f)) (Eff.update_apply _ _ _) rfl _

def counting (t : Invocation) (f : Stats → Stats) (next : Phase) : Invocation :=
  { t with phase := next, world := t.world.count f }

def calling (t : Invocation) (ev : Event) (next : Phase) : Invocation :=
  { t with phase := next, world := t.world.emit ev, own := t.own ++ [ev] }

variable (codec e t) in
/-- What a step makes of an invocation in a phase. -/
inductive Step : Phase → Invocation → Prop
  | entered : Step .entered (t.counting (fun s => { s with inFlight := s.inFlight + 1 }) .counted)
  | counted : Step .counted (t.counting (fun s => { s with totalReceived := s.totalReceived + 1 }) .received)
  | refused {f : Failure} (harises : f.Arises codec t.input.msg) (h : classify codec t.input.msg = .failing f) :
    Step .received { t with phase := .failing f }
  | decoded {m : Message} {email : Email} (hm : t.input.msg = some m) (hvalid : codec.ValidPayload m.payload email)
      (h : classify codec t.input.msg = .chain email) : Step .received { t with phase := .chain email }
  | chain {email : Email} {w : World} (r : Option GoError)
      (h : buildChain e.middlewares e.sendWithRetry email t.input.env t.world = (.ok r, w)) :
    Step (.chain email) { t with phase := afterChain r, world := w }
  | succeeding : Step .succeeding (t.counting (fun s => { s with totalSuccess := s.totalSuccess + 1 }) (.leaving none))
  | failing (f : Failure) :
    Step (.failing f) (t.counting (fun s => { s with totalFailed := s.totalFailed + 1 }) (afterFailed f))
  | routing (f : Failure) : Step (.routing f) { t with phase := .publishing f, world := e.routed t.world }
  | unpublished (f : Failure) (h : e.dlqProducer = none) : Step (.publishing f) { t with phase := .notifying f }
  | published (f : Failure) (r : Option GoError) {q : Queue} (h : e.dlqProducer = some q)
      (hr : t.input.env.publish = .returns r) :
    Step (.publishing f) (t.calling (.publish (e.deadLetter t.world.msg f.err) (.returns r)) (afterPublish f r))
  | unheard (f : Failure) (h : e.errorHandler = false) : Step (.notifying f) { t with phase := .acking f }
  | notified (f : Failure) (h : e.errorHandler = true) :
    Step (.notifying f) (t.calling (.errorHandler f.err none) (.acking f))
  | acking (f : Failure) {err : Option GoError} {w : World} {evs : List Event}
      (h : ackMessage t.input.env t.world = (.ok err, w)) (hstats : w.stats = t.world.stats)
      (hevents : w.events = t.world.events ++ evs) (hacks : ∀ ev ∈ evs, ev.isAck = true) :
    Step (.acking f) { t with phase := .leaving (some f.err), world := w, own := t.own ++ evs, acks := t.acks + 1 }
  | leaving (r : Option GoError) :
    Step (.leaving r) (t.counting (fun s => { s with inFlight := s.inFlight - 1 }) (.returned r))

lemma step_spec (h : t.step codec e = some t') : Step codec e t t.phase t' := by
  unfold step at h
  cases hphase : t.phase with
  | entered | counted | succeeding | failing f | leaving r =>
    rw [hphase] at h
    cases (count_eq _ _ _).symm.trans h
    constructor
  | received =>
    rw [hphase] at h
    cases (perform_of_quiet (Eff.pure_apply _ _ _) rfl _).symm.trans h
    obtain ⟨f, hf, harises⟩ | ⟨m, email, hemail, hm, hvalid⟩ := classify_cases codec t.input.msg
    · rw [hf]
      exact .refused harises hf
    · rw [hemail]
      exact .decoded hm hvalid hemail
  | chain email =>
    rw [hphase] at h
    dsimp only [stepChain] at h
    rcases hrun : buildChain e.middlewares e.sendWithRetry email t.input.env t.world with ⟨_ | r, w⟩
    · rw [hrun] at h
      cases h
    · rw [hrun] at h
      cases h
      exact .chain r hrun
  | routing f =>
    rw [hphase] at h
    cases (perform_of_quiet (Eff.update_apply _ _ _) rfl _).symm.trans h
    exact .routing f
  | publishing f =>
    rw [hphase] at h
    cases hd : e.dlqProducer with
    | none =>
      cases (perform_of_quiet (Engine.publishDeadLetter_of_none hd) rfl _).symm.trans h
      exact .unpublished f hd
    | some q =>
      obtain ⟨r, hr⟩ := t.input.publish_returns
      cases (perform_of_ok (Engine.publishDeadLetter_of_returns hd hr) rfl _).symm.trans h
      exact .published f r hd hr
  | notifying f =>
    rw [hphase] at h
    have hrun := e.notifyErrorHandler_of_returns f.err t.world t.input.handler_returns
    cases he : e.errorHandler with
    | false =>
      rw [he] at hrun
      cases (perform_of_quiet hrun rfl _).symm.trans h
      exact .unheard f he
    | true =>
      rw [he] at hrun
      cases (perform_of_ok hrun rfl _).symm.trans h
      exact .notified f he
  | acking f =>
    rw [hphase] at h
    obtain ⟨err, w, evs, hrun, hstats, hevents, hacks⟩ := ackMessage_logs t.input.env t.world
    cases (perform_of_ok (t := { t with acks := t.acks + 1 }) hrun hevents _).symm.trans h
    exact .acking f hrun hstats hevents hacks
  | returned r =>
    rw [hphase] at h
    cases h

lemma Step.input_eq (h : Step codec e t p t') : t'.input = t.input := by
  cases h <;> rfl

/-! ### The rest of the call from a phase on -/

section Rest

variable (codec : Codec) (e : Engine)

def restAcking (f : Failure) : Proc (Option GoError) := do
  discard ackMessage
  pure (some f.err)

def restNotifying (f : Failure) : Proc (Option GoError) := do
  e.notifyErrorHandler f.err
  restAcking f

def restRefused (dlqErr : GoError) : Failure → Proc (Option GoError)
  | .exhausted _ => pure (some ⟨"runtime: DLQ publish failed: " ++ dlqErr.text⟩)
  | f => restAcking f

def restPublished (f : Failure) : Option GoError → Proc (Option GoError)
  | none => restNotifying e f
  | some dlqErr => restRefused dlqErr f

def restRouting (f : Failure) : Proc (Option GoError) := do
  Eff.update (World.count · fun s => { s with totalDeadLetter := s.totalDeadLetter + 1 })
  Eff.update (World.record · (.queueDeadLetter e.queue.driver.name e.queue.name))
  e.publishDeadLetter f.err >>= restPublished e f

def restFailing : Failure → Proc (Option GoError)
  | .absent => do
    Engine.countFailed
    pure (some errInvalidPayload)
  | .empty => do
    Engine.countFailed
    restAcking .empty
  | f => do
    Engine.countFailed
    restRouting e f

def restSucceeding : Proc (Option GoError) := do
  Eff.update (World.count · fun s => { s with totalSuccess := s.totalSuccess + 1 })
  pure none

def restChain (email : Email) : Proc (Option GoError) :=
  buildChain e.middlewares e.sendWithRetry email >>= fun r => match r with
    | some err => restFailing e (.exhausted err)
    | none => restSucceeding

end Rest

lemma finish_bind (e : Engine) (f : Failure) (k : Option GoError → Proc (Option GoError))
    (env : Env) (w : World) (hnone : ∀ w, k none env w = (.ok (some f.err), w)) :
    (e.finish f.err >>= k) env w = restNotifying e f env w := by
  unfold Engine.finish restNotifying
  rcases hnotify : e.notifyErrorHandler f.err env w with ⟨_ | _, w₁⟩
  · have hfinish : e.finish f.err env w = (.error _, w₁) := Eff.bind_of_error hnotify _
    rw [Eff.bind_of_error hnotify]
    exact Eff.bind_of_error hfinish k
  · obtain ⟨err, w₂, evs, hack, -⟩ := ackMessage_logs env w₁
    have hdiscard : (discard ackMessage : Proc PUnit) env w₁ = (.ok ⟨⟩, w₂) := Eff.bind_of_ok hack _
    have hfinish : e.finish f.err env w = (.ok none, w₂) :=
      (Eff.bind_of_ok hnotify _).trans (Eff.bind_of_ok hdiscard _)
    have hrest : restAcking f env w₁ = (.ok (some f.err), w₂) := Eff.bind_of_ok hdiscard _
    rw [Eff.bind_of_ok hnotify, hrest]
    exact (Eff.bind_of_ok hfinish k).trans (hnone w₂)

lemma routeToDLQ_bind (e : Engine) (f : Failure) (k : Option GoError → Proc (Option GoError))
    (env : Env) (w : World)
    (hnone : ∀ w, k none env w = (.ok (some f.err), w))
    (hsome : ∀ dlqErr w, k (some ⟨"runtime: DLQ publish failed: " ++ dlqErr.text⟩) env w =
      restRefused dlqErr f env w) :
    (e.routeToDLQ f.err >>= k) env w = restRouting e f env w := by
  have hrest : restRouting e f env w =
      (e.publishDeadLetter f.err >>= restPublished e f) env (e.routed w) := rfl
  rw [hrest]
  rcases hpub : e.publishDeadLetter f.err env (e.routed w) with ⟨_ | r, w₁⟩
  · have hroute : e.routeToDLQ f.err env w = (.error _, w₁) := Eff.bind_of_error hpub _
    rw [Eff.bind_of_error hroute, Eff.bind_of_error hpub]
  · rw [Eff.bind_of_ok hpub]
    cases r with
    | none =>
      have hroute : e.routeToDLQ f.err env w = e.finish f.err env w₁ := Eff.bind_of_ok hpub _
      rw [Eff.bind_apply, hroute]
      exact finish_bind e f k env w₁ hnone
    | some dlqErr =>
      have hroute : e.routeToDLQ f.err env w =
          (.ok (some ⟨"runtime: DLQ publish failed: " ++ dlqErr.text⟩), w₁) := Eff.bind_of_ok hpub _
      rw [Eff.bind_of_ok hroute]
      exact hsome dlqErr w₁

lemma reject_eq (e : Engine) (err : GoError) (env : Env) (w : World) :
    e.reject err env w = restFailing e (.rejected err) env w := by
  refine routeToDLQ_bind e (.rejected err) _ env _ ?_ ?_
  · intro w
    rfl
  · intro dlqErr w
    rfl

lemma processEmail_eq (e : Engine) (email : Email) (env : Env) (w : World) :
    e.processEmail email env w = restChain e email env w := by
  unfold Engine.processEmail restChain
  rcases hrun : buildChain e.middlewares e.sendWithRetry email env w with ⟨_ | r, w'⟩
  · rw [Eff.bind_of_error hrun, Eff.bind_of_error hrun]
  · rw [Eff.bind_of_ok hrun, Eff.bind_of_ok hrun]
    cases r with
    | none => rfl
    | some err =>
      refine routeToDLQ_bind e (.exhausted err) _ env _ ?_ ?_
      · intro w
        rfl
      · intro dlqErr w
        rfl

lemma handlePayload_eq (codec : Codec) (e : Engine) (env : Env) {w : World} :
    e.handlePayload codec env w = match classify codec (some w.msg) with
      | .failing f => restFailing e f env w
      | .chain email => restChain e email env w
      | _ => (.ok none, w) := by
  have hrun : e.handlePayload codec env w = _ := Eff.bind_of_ok (Eff.query_apply env w _) _
  rw [hrun]
  unfold classify
  by_cases hempty : w.msg.payload = []
  · simp only [if_pos hempty]
    rfl
  · simp only [if_neg hempty]
    cases hdec : codec.unmarshalEmail w.msg.payload with
    | error err => exact reject_eq e _ env w
    | ok email =>
      dsimp only
      cases hval : email.validate codec with
      | some err => exact reject_eq e _ env w
      | none => exact processEmail_eq e email env w

def Phase.rest (codec : Codec) (e : Engine) : Phase → Proc (Option GoError)
  | entered => do
    Eff.update (World.count · fun s =>
      { s with inFlight := s.inFlight + 1, totalReceived := s.totalReceived + 1 })
    e.handlePayload codec
  | counted => do
    Eff.update (World.count · fun s => { s with totalReceived := s.totalReceived + 1 })
    e.handlePayload codec
  | received => e.handlePayload codec
  | chain email => restChain e email
  | succeeding => restSucceeding
  | failing f => restFailing e f
  | routing f => restRouting e f
  | publishing f => e.publishDeadLetter f.err >>= restPublished e f
  | notifying f => restNotifying e f
  | acking f => restAcking f
  | leaving r | returned r => pure r

def Phase.resume (codec : Codec) (e : Engine) (p : Phase) : Proc (Option GoError) :=
  match p with
  | returned r => pure r
  | p => Eff.ensure (p.rest codec e) (World.count · fun s => { s with inFlight := s.inFlight - 1 })

def Phase.finished : Phase → Bool
  | returned _ => true
  | _ => false

lemma resume_congr {p p' : Phase} {env : Env} {w w' : World} (hp : p.finished = false)
    (hp' : p'.finished = false) (h : p'.rest codec e env w' = p.rest codec e env w) :
    p'.resume codec e env w' = p.resume codec e env w := by
  have hresume : ∀ {p : Phase}, p.finished = false → p.resume codec e =
      Eff.ensure (p.rest codec e) (World.count · fun s => { s with inFlight := s.inFlight - 1 }) := by
    intro p hp
    cases p with
    | returned r => cases hp
    | _ => rfl
  rw [hresume hp, hresume hp']
  exact Eff.ensure_congr h _

lemma rest_afterFailed (f : Failure) (env : Env) (w : World) : (Phase.failing f).rest codec e env w =
    (afterFailed f).rest codec e env (w.count fun s => { s with totalFailed := s.totalFailed + 1 }) := by
  cases f <;> rfl

lemma rest_afterPublish (f : Failure) (r : Option GoError) :
    (afterPublish f r).rest codec e = restPublished e f r := by
  cases r with
  | none => rfl
  | some dlqErr => cases f <;> rfl

/-- Past the chain and not publishing a dead letter. -/
def Phase.settling : Phase → Bool
  | succeeding | failing _ | routing _ | notifying _ | acking _ | leaving _ => true
  | _ => false

lemma settling_afterChain (r : Option GoError) : (afterChain r).settling = true := by
  cases r <;> rfl

lemma settling_afterFailed (f : Failure) : (afterFailed f).settling = true := by
  cases f <;> rfl

lemma settling_afterPublish (f : Failure) (r : Option GoError) : (afterPublish f r).settling = true := by
  cases r with
  | none => rfl
  | some dlqErr => cases f <;> rfl

lemma finished_of_settling (h : p.settling = true) : p.finished = false := by
  cases p <;> first | rfl | cases h

def Phase.fresh : Phase → Bool
  | entered => true
  | counted => true
  | received => true
  | _ => false

lemma not_fresh_of_settling (h : p.settling = true) : p.fresh = false := by
  cases p <;> first | rfl | cases h

lemma Step.resume_eq (h : Step codec e t p t') {m : Message} (hm : t.input.msg = some m)
    (hfresh : p.fresh = true → t.world.msg = m) :
    t'.phase.resume codec e t.input.env t'.world = p.resume codec e t.input.env t.world := by
  cases h with
  | entered | counted | succeeding | leaving r => rfl
  | refused _ hclass | decoded _ _ hclass =>
    have hpay := handlePayload_eq codec e t.input.env (w := t.world)
    rw [hfresh rfl, ← hm, hclass] at hpay
    exact resume_congr rfl rfl hpay.symm
  | @chain email w r hrun =>
    have hrest : (Phase.chain email).rest codec e t.input.env t.world = _ := Eff.bind_of_ok hrun _
    cases r <;> exact resume_congr rfl rfl hrest.symm
  | failing f => exact resume_congr rfl (finished_of_settling (settling_afterFailed f)) (rest_afterFailed f _ _).symm
  | routing f => exact resume_congr rfl rfl rfl
  | unpublished f hd =>
    exact resume_congr rfl rfl (Eff.bind_of_ok (Engine.publishDeadLetter_of_none hd) (restPublished e f)).symm
  | published f r hd hr =>
    refine resume_congr rfl (finished_of_settling (settling_afterPublish f r)) ?_
    exact (congrFun₂ (rest_afterPublish f r) _ _).trans
      (Eff.bind_of_ok (Engine.publishDeadLetter_of_returns hd hr) _).symm
  | unheard f he | notified f he =>
    have hrun := e.notifyErrorHandler_of_returns f.err t.world t.input.handler_returns
    rw [he] at hrun
    exact resume_congr rfl rfl (Eff.bind_of_ok hrun fun _ => restAcking f).symm
  | acking f hrun =>
    have hdiscard : (discard ackMessage : Proc PUnit) t.input.env t.world = _ := Eff.bind_of_ok hrun _
    exact resume_congr rfl rfl (Eff.bind_of_ok hdiscard fun _ => pure (some f.err)).symm

lemma Step.msg_eq (h : Step codec e t p t') (hfresh : t'.phase.fresh = true) :
    p.fresh = true ∧ t'.world.msg = t.world.msg := by
  cases h with
  | entered | counted => exact ⟨rfl, rfl⟩
  | chain r => cases (not_fresh_of_settling (settling_afterChain r)).symm.trans hfresh
  | failing f => cases (not_fresh_of_settling (settling_afterFailed f)).symm.trans hfresh
  | published f r => cases (not_fresh_of_settling (settling_afterPublish f r)).symm.trans hfresh
  | _ => cases hfresh

/-- The invocation computes what `processMessage` computes on its message. -/
structure Refines (codec : Codec) (e : Engine) (t : Invocation) : Prop where
  fresh : t.phase.fresh = true → t.world.msg = t.input.msg.getD {}
  resume : ∀ m, t.input.msg = some m → t.phase.resume codec e t.input.env t.world =
    e.processMessage codec t.input.env { msg := m }

lemma refines_start (codec : Codec) (e : Engine) (i : Input) : Refines codec e (start i) where
  fresh _ := rfl
  resume := by
    intro m hm
    have hworld : (start i).world = { msg := m } := by
      change ({ msg := i.msg.getD {} } : World) = _
      rw [show i.msg = some m from hm]
      rfl
    rw [hworld]
    rfl

lemma step_refines (ht : Refines codec e t) (h : Step codec e t t.phase t') : Refines codec e t' := by
  constructor
  · intro hphase
    obtain ⟨hphase, hmsg⟩ := h.msg_eq hphase
    rw [hmsg, h.input_eq]
    exact ht.fresh hphase
  · intro m hm
    rw [h.input_eq] at hm ⊢
    rw [h.resume_eq hm fun hphase => by rw [ht.fresh hphase, hm]; rfl]
    exact ht.resume m hm

end Invocation

end MailBaby
