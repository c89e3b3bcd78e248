import MailBaby.SendApi

/-!
# What clients are told about their emails

Panics and errors of the sender and of the queue, as they reach the clients of the two servers, and the
decisions that the servers take for the items of a batch.
-/

namespace MailBaby

open Lib

namespace CallResult

variable {r r' : CallResult}

def isPanic : CallResult → Bool
  | panics _ => true
  | returns _ => false

def isError : CallResult → Bool
  | returns (some _) => true
  | _ => false

def blind : CallResult → CallResult
  | returns (some _) => returns (some ⟨""⟩)
  | r => r

/-- How a client is answered that waits for a call which ends like this. -/
def outcome {ε ρ : Type} (fail : GoError → ε) (resp : ρ) : CallResult → Except String (Except ε ρ)
  | panics v => .error v
  | returns (some err) => .ok (.error (fail err))
  | returns none => .ok (.ok resp)

lemma eq_of_blind (h : r'.blind = r.blind) (hr : r.isError = false) : r' = r := by
  rcases r with (_ | err) | v
  · rcases r' with (_ | err') | v' <;> simp_all [blind]
  · cases hr
  · rcases r' with (_ | err') | v' <;> simp_all [blind]

lemma isError_of_blind (h : r'.blind = r.blind) : r'.isError = r.isError := by
  rcases r with (_ | err) | v <;> rcases r' with (_ | err') | v' <;> simp_all [blind, isError]

lemma isPanic_of_blind (h : r'.blind = r.blind) : r'.isPanic = r.isPanic := by
  rcases r with (_ | err) | v <;> rcases r' with (_ | err') | v' <;> simp_all [blind, isPanic]

lemma exists_of_isError (h : r.isError = true) : ∃ err, r = returns (some err) := by
  rcases r with (_ | err) | v
  · cases h
  · exact ⟨err, rfl⟩
  · cases h

lemma exists_of_isPanic (h : r.isPanic = true) : ∃ v, r = panics v := by
  rcases r with err | v
  · cases h
  · exact ⟨v, rfl⟩

end CallResult

/-! ### The send service -/

namespace Core

/-- The sender or the queue took the email, or there is no queue and its background send was started. -/
def Trace.Delivered (svc : Option SendService) (t : Trace) : Prop :=
  (∃ email, Call.send email (.returns none) ∈ t.calls) ∨
    (∃ msg, Call.publish msg (.returns none) ∈ t.calls) ∨
    svc.any (·.producer) = false ∧ ∃ email, Call.background email ∈ t.calls

/-- A run ends with an error, or with a response for an email that was taken. -/
def Replied {ε ρ : Type} (svc : Option SendService) (email : Email) (ident status : ρ → String)
    (ran : Except String (Except ε ρ) × Trace) : Prop :=
  (∃ err t, ran = (.ok (.error err), t)) ∨
    ∃ resp t, ran = (.ok (.ok resp), t) ∧ t.Delivered svc ∧ status resp ≠ "failed" ∧ ident resp = email.id

section Invoke

variable {env : CallEnv} (c : CallResult → Call) (t : Trace)

lemma invoke_of_panics {v : String} (h : env.result = .panics v) :
    invoke c env t = (.error v, { t with calls := t.calls ++ [c (.panics v)] }) := by
  simp [invoke, start, Eff.bind_apply, h, Eff.panic]

lemma invoke_of_returns {err : Option GoError} (h : env.result = .returns err) :
    invoke c env t = (.ok err, { t with calls := t.calls ++ [c (.returns err)] }) := by
  simp [invoke, start, Eff.bind_apply, h]

end Invoke

namespace SendService

variable (s : SendService) (toJSON : Email → Except GoError Bytes) (async : Bool) (email : Email)

def calls : Bool := if async then s.producer && (toJSON email).isOk else s.sender

def deliver : SendProc (Except GoError SendOutcome) :=
  if async then s.sendAsync toJSON email else s.sendSync email

variable {s toJSON async email} {env : CallEnv}

lemma calls_async (h : s.calls toJSON true email = true) :
    s.producer = true ∧ ∃ data, toJSON email = .ok data := by
  simp only [calls, if_true, Bool.and_eq_true] at h
  cases hdata : toJSON email with
  | error err => simp [hdata, Except.isOk, Except.toBool] at h
  | ok data => exact ⟨h.1, data, rfl⟩

lemma sendAsync_eq {data : Bytes} (hdata : toJSON email = .ok data) (hproducer : s.producer = true) :
    s.sendAsync toJSON email env = publish email (asyncMessage s.queueName env.now email data) env := by
  funext t
  unfold sendAsync
  rw [hdata]
  simp only [Eff.bind_apply, Eff.query_apply, hproducer, if_true]

lemma deliver_of_calls (hcalls : s.calls toJSON async email = true) (env : CallEnv) :
    ∃ out t, s.deliver toJSON async email env {} = (env.result.outcome id out, t) ∧
      (t.Delivered (some s) ↔ env.result = .returns none) ∧ out.status ≠ "failed" ∧ out.id = email.id := by
  cases async with
  | true =>
    obtain ⟨hproducer, data, hdata⟩ := calls_async hcalls
    rw [deliver, if_pos rfl, sendAsync_eq hdata hproducer, publish]
    refine ⟨⟨email.id, "queued", "email enqueued successfully", env.sentAt⟩, ?_⟩
    rcases hr : env.result with (_ | err) | v
    · exact ⟨_, Eff.bind_of_ok (invoke_of_returns _ _ hr) _, by simp [Trace.Delivered], by simp, rfl⟩
    · exact ⟨_, Eff.bind_of_ok (invoke_of_returns _ _ hr) _, by simp [Trace.Delivered], by simp, rfl⟩
    · exact ⟨_, Eff.bind_of_error (invoke_of_panics _ _ hr) _, by simp [Trace.Delivered], by simp, rfl⟩
  | false =>
    have hsender : s.sender = true := hcalls
    rw [deliver, if_neg (by simp), sendSync, hsender, Bool.not_true, if_neg (by simp)]
    refine ⟨⟨email.id, "sent", "email sent successfully", env.sentAt⟩, ?_⟩
    rcases hr : env.result with (_ | err) | v
    · exact ⟨_, Eff.bind_of_ok (invoke_of_returns _ _ hr) _, by simp [Trace.Delivered], by simp, rfl⟩
    · exact ⟨_, Eff.bind_of_ok (invoke_of_returns _ _ hr) _, by simp [Trace.Delivered], by simp, rfl⟩
    · exact ⟨_, Eff.bind_of_error (invoke_of_panics _ _ hr) _, by simp [Trace.Delivered], by simp, rfl⟩

lemma deliver_of_not_calls (hcalls : s.calls toJSON async email = false) (env : CallEnv) :
    (∀ r, s.deliver toJSON async email { env with result := r } {} = s.deliver toJSON async email env {}) ∧
      Replied (some s) email SendOutcome.id SendOutcome.status (s.deliver toJSON async email env {}) := by
  cases async with
  | true =>
    simp only [calls, if_true] at hcalls
    simp only [deliver, if_true]
    unfold sendAsync
    cases hdata : toJSON email with
    | error err => exact ⟨fun _ => rfl, .inl ⟨_, _, rfl⟩⟩
    | ok data =>
      have hproducer : s.producer = false := by
        simpa [hdata, Except.isOk, Except.toBool] using hcalls
      cases hsender : s.sender with
      | true =>
        simp only [hproducer, Eff.bind_apply, Eff.query_apply, if_true]
        refine ⟨fun _ => rfl, .inr ⟨_, _, rfl, .inr (.inr ⟨?_, _, List.mem_singleton_self _⟩), by simp, rfl⟩⟩
        simpa using hproducer
      | false =>
        simp only [hproducer, Eff.bind_apply, Eff.query_apply]
        exact ⟨fun _ => rfl, .inl ⟨_, _, rfl⟩⟩
  | false =>
    have hsender : s.sender = false := hcalls
    simp only [deliver]
    unfold sendSync
    rw [hsender]
    exact ⟨fun _ => rfl, .inl ⟨_, _, rfl⟩⟩

end SendService

/-- Whether an action makes a call of `Send` or `Publish` that the client waits for. -/
def callsOut (svc : Option SendService) (toJSON : Email → Except GoError Bytes) : Action → Bool
  | .deliver async email => svc.any fun s => s.calls toJSON async email
  | _ => false

section Action

variable {codec : Codec} {email : Email} (async : Bool)

lemma action_of_invalid {err : GoError} (h : email.validate codec = some err) :
    action codec async (some email) = .rejectInvalid email err := by
  simp only [action, h]

lemma action_of_valid (h : email.validate codec = none) :
    action codec async (some email) = .deliver async email := by
  simp only [action, h]

end Action

def CallEnv.blind (env : CallEnv) : CallEnv := { env with result := env.result.blind }

lemma CallEnv.eq_of_blind {env env' : CallEnv} (h : env'.blind = env.blind) :
    env' = { env with result := env'.result } ∧ env'.result.blind = env.result.blind := by
  cases env
  cases env'
  simp only [blind, mk.injEq] at h
  obtain ⟨rfl, rfl, rfl, rfl, h⟩ := h
  exact ⟨rfl, h⟩

lemma CallEnv.generatedID_of_blind {env env' : CallEnv} (h : env'.blind = env.blind) :
    env'.generatedID = env.generatedID := by
  rw [(CallEnv.eq_of_blind h).1]

/-- What both servers make of the send service: an error is passed on as `fail` says, and a response
has a status of its own. -/
structure Carries {ε ρ : Type} (svc : Option SendService) (toJSON : Email → Except GoError Bytes)
    (async : Bool) (email : Email) (fail : GoError → ε) (ident status : ρ → String)
    (p : SendProc (Except ε ρ)) : Prop where
  calling (env : CallEnv) (hcalls : callsOut svc toJSON (.deliver async email) = true) :
    ∃ resp t, p env {} = (env.result.outcome fail resp, t) ∧
      (t.Delivered svc ↔ env.result = .returns none) ∧ status resp ≠ "failed" ∧ ident resp = email.id
  idle (env : CallEnv) (hcalls : callsOut svc toJSON (.deliver async email) = false) :
    (∀ r, p { env with result := r } {} = p env {}) ∧ Replied svc email ident status (p env {})

/-- What the goroutine of an item may do, for the action that it carries out. -/
structure Settles {ρ : Type} (svc : Option SendService) (toJSON : Email → Except GoError Bytes)
    (a : Action) (status : ρ → String) (q : SendProc (Bool × ρ)) : Prop where
  panics_iff (env : CallEnv) :
    (∃ v, (q env {}).1 = .error v) ↔ callsOut svc toJSON a = true ∧ env.result.isPanic = true
  delivered {env : CallEnv} {out : Bool × ρ} (h : (q env {}).1 = .ok out)
    (hstatus : status out.2 ≠ "failed") : (q env {}).2.Delivered svc

variable {ε ρ : Type} {svc : Option SendService} {toJSON : Email → Except GoError Bytes} {async : Bool}
  {email : Email} {fail : GoError → ε} {ident status : ρ → String} {p : SendProc (Except ε ρ)}

namespace Carries

lemma of_deliver {s : SendService} {f : Except GoError SendOutcome → Except ε ρ}
    (hp : p = s.deliver toJSON async email >>= fun out => pure (f out))
    (herror : ∀ err, f (.error err) = .error (fail err))
    (hok : ∀ out, ∃ resp, f (.ok out) = .ok resp ∧ status resp = out.status ∧ ident resp = out.id) :
    Carries (some s) toJSON async email fail ident status p := by
  have hrun : ∀ env, p env {} = ((s.deliver toJSON async email env {}).1.map f,
      (s.deliver toJSON async email env {}).2) := by
    intro env
    rw [hp, Eff.bind_pure_apply]
  refine ⟨fun env hcalls => ?_, fun env hcalls => ?_⟩
  · obtain ⟨out, t, ht, hdelivered, hstatus, hid⟩ := SendService.deliver_of_calls hcalls env
    obtain ⟨resp, hresp, heq, heq'⟩ := hok out
    refine ⟨resp, t, ?_, hdelivered, heq ▸ hstatus, heq'.trans hid⟩
    rw [hrun, ht]
    rcases env.result with (_ | err) | v
    · exact congrArg (fun r => (Except.ok r, t)) hresp
    · exact congrArg (fun r => (Except.ok r, t)) (herror err)
    · rfl
  · obtain ⟨hsame, hcases⟩ := SendService.deliver_of_not_calls hcalls env
    refine ⟨fun r => by rw [hrun, hrun, hsame], ?_⟩
    rw [hrun]
    rcases hcases with ⟨err, t, ht⟩ | ⟨out, t, ht, hdelivered, hstatus, hid⟩
    · refine .inl ⟨fail err, t, ?_⟩
      rw [ht, ← herror]
      rfl
    · obtain ⟨resp, hresp, heq, heq'⟩ := hok out
      refine .inr ⟨resp, t, ?_, hdelivered, heq ▸ hstatus, heq'.trans hid⟩
      rw [ht, ← hresp]
      rfl

lemma of_refusal (err : ε) (hcalls : callsOut svc toJSON (.deliver async email) = false)
    (hp : p = pure (.error err)) : Carries svc toJSON async email fail ident status p := by
  subst hp
  refine ⟨fun env h => ?_, fun env _ => ⟨fun _ => rfl, .inl ⟨err, {}, rfl⟩⟩⟩
  rw [hcalls] at h
  cases h

variable {env env' : CallEnv} (hp : Carries svc toJSON async email fail ident status p)

include hp

lemma error {err : GoError} (hcalls : callsOut svc toJSON (.deliver async email) = true)
    (h : env.result = .returns (some err)) : ∃ t, p env {} = (.ok (.error (fail err)), t) := by
  obtain ⟨resp, t, ht, -⟩ := hp.calling env hcalls
  rw [h] at ht
  exact ⟨t, ht⟩

lemma bind_eq_of_no_error {α : Type} (h : env'.blind = env.blind)
    (hno : callsOut svc toJSON (.deliver async email) = true → env.result.isError = false)
    {next : Except ε ρ → SendProc α} (hnext : ∀ result t, (next result env' t).1 = (next result env t).1) :
    ((p >>= next) env' {}).1 = ((p >>= next) env {}).1 := by
  have hsame : p env' {} = p env {} := by
    obtain ⟨heq, hresult⟩ := CallEnv.eq_of_blind h
    by_cases hcalls : callsOut svc toJSON (.deliver async email) = true
    · rw [heq, CallResult.eq_of_blind hresult (hno hcalls)]
    · rw [heq]
      exact (hp.idle env (eq_false_of_ne_true hcalls)).1 _
  rw [Eff.bind_apply, Eff.bind_apply, hsame]
  rcases p env {} with ⟨_ | result, t⟩
  · rfl
  · exact hnext result t

lemma bind_eq_of_blind {α : Type} (h : env'.blind = env.blind) {next : Except ε ρ → SendProc α}
    (hok : ∀ resp t, (next (.ok resp) env' t).1 = (next (.ok resp) env t).1)
    (herror : ∀ err err' t t', (next (.error err') env' t').1 = (next (.error err) env t).1) :
    ((p >>= next) env' {}).1 = ((p >>= next) env {}).1 := by
  by_cases hfails : callsOut svc toJSON (.deliver async email) = true ∧ env.result.isError = true
  · obtain ⟨hcalls, hfailed⟩ := hfails
    have hblind := CallResult.isError_of_blind (CallEnv.eq_of_blind h).2
    obtain ⟨err, hr⟩ := CallResult.exists_of_isError hfailed
    obtain ⟨err', hr'⟩ := CallResult.exists_of_isError (hblind.trans hfailed)
    obtain ⟨t, ht⟩ := hp.error hcalls hr
    obtain ⟨t', ht'⟩ := hp.error hcalls hr'
    rw [Eff.bind_of_ok ht, Eff.bind_of_ok ht']
    exact herror _ _ t t'
  · refine hp.bind_eq_of_no_error h (fun hcalls => ?_) fun result t => ?_
    · exact eq_false_of_ne_true fun herr => hfails ⟨hcalls, herr⟩
    · cases result with
      | error err => exact herror err err t t
      | ok resp => exact hok resp t

lemma cases (env : CallEnv) :
    ((callsOut svc toJSON (.deliver async email) = true ∧ env.result.isPanic = true) ∧
        ∃ v t, p env {} = (.error v, t) ∧ ¬t.Delivered svc) ∨
      ¬(callsOut svc toJSON (.deliver async email) = true ∧ env.result.isPanic = true) ∧
        Replied svc email ident status (p env {}) := by
  by_cases hcalls : callsOut svc toJSON (.deliver async email) = true
  · obtain ⟨resp, t, ht, hdelivered, hstatus⟩ := hp.calling env hcalls
    rcases hr : env.result with (_ | err) | v
    · rw [hr] at ht hdelivered
      exact .inr ⟨by simp [CallResult.isPanic], .inr ⟨resp, t, ht, hdelivered.mpr rfl, hstatus⟩⟩
    · rw [hr] at ht
      exact .inr ⟨by simp [CallResult.isPanic], .inl ⟨_, t, ht⟩⟩
    · rw [hr] at ht hdelivered
      exact .inl ⟨⟨hcalls, rfl⟩, v, t, ht, by simp [hdelivered]⟩
  · exact .inr ⟨fun h => hcalls h.1, (hp.idle env (eq_false_of_ne_true hcalls)).2⟩

lemma settles {next : Except ε ρ → SendProc (Bool × ρ)} (hok : ∀ resp, next (.ok resp) = pure (true, resp))
    (herror : ∀ err env t, ∃ out, next (.error err) env t = (.ok out, t) ∧ status out.2 = "failed") :
    Settles svc toJSON (.deliver async email) status (p >>= next) := by
  refine ⟨fun env => ?_, fun {env out} h hstatus => ?_⟩
  · rcases hp.cases env with ⟨hpanics, v, t, ht, -⟩ | ⟨hnot, ⟨err, t, ht⟩ | ⟨resp, t, ht, -⟩⟩
    · rw [Eff.bind_of_error ht]
      exact iff_of_true ⟨v, rfl⟩ hpanics
    · obtain ⟨out, hout, -⟩ := herror err env t
      rw [Eff.bind_of_ok ht, hout]
      exact iff_of_false (by simp) hnot
    · rw [Eff.bind_of_ok ht, hok]
      exact iff_of_false (by simp) hnot
  · rcases hp.cases env with ⟨-, v, t, ht, -⟩ | ⟨-, ⟨err, t, ht⟩ | ⟨resp, t, ht, hdelivered, -⟩⟩
    · rw [Eff.bind_of_error ht] at h
      cases h
    · obtain ⟨out', hout, hfailed⟩ := herror err env t
      rw [Eff.bind_of_ok ht, hout] at h
      cases h
      exact absurd hfailed hstatus
    · rw [Eff.bind_of_ok ht, hok]
      exact hdelivered

end Carries

lemma Settles.of_reject {a : Action} {q : SendProc (Bool × ρ)} (hcalls : callsOut svc toJSON a = false)
    (hq : ∀ env, ∃ out t, q env {} = (.ok out, t) ∧ status out.2 = "failed") :
    Settles svc toJSON a status q := by
  refine ⟨fun env => ?_, fun {env out} h hstatus => ?_⟩
  · obtain ⟨out, t, hout, -⟩ := hq env
    rw [hout, hcalls]
    simp
  · obtain ⟨out', t, hout, hfailed⟩ := hq env
    rw [hout] at h
    cases h
    exact absurd hfailed hstatus

end Core

namespace Handler.EmailHandler

open MailBaby.Core

variable (h : EmailHandler)

lemma carries (async : Bool) (email : Email) :
    Carries h.svc h.toJSON async email id SendEmailResponse.id SendEmailResponse.status (h.deliver async email) := by
  cases hsvc : h.svc with
  | none =>
    cases async with
    | true => exact .of_refusal _ rfl (by simp only [deliver, if_true, sendAsync, hsvc]; rfl)
    | false =>
      exact .of_refusal _ rfl (by simp only [deliver, Bool.false_eq_true, if_false, sendSync, hsvc]; rfl)
  | some svc =>
    apply Carries.of_deliver (f := Except.map SendEmailResponse.ofOutcome)
    · cases async with
      | true => simp only [deliver, SendService.deliver, if_true, sendAsync, hsvc]
      | false => simp only [deliver, SendService.deliver, Bool.false_eq_true, if_false, sendSync, hsvc]
    · exact fun err => rfl
    · exact fun out => ⟨_, rfl, rfl, rfl⟩

lemma settles_answerItem (a : Action) :
    Settles h.svc h.toJSON a SendEmailResponse.status (h.answerItem a) := by
  cases a with
  | rejectNil => exact .of_reject rfl fun env => ⟨_, _, rfl, rfl⟩
  | rejectInvalid email err => exact .of_reject rfl fun env => ⟨_, _, rfl, rfl⟩
  | deliver async email =>
    exact (h.carries async email).settles (fun _ => rfl) fun err env t => ⟨_, rfl, rfl⟩

lemma answerItem_eq_of_blind (a : Action) {env env' : CallEnv} (hblind : env'.blind = env.blind) :
    (h.answerItem a env' {}).1 = (h.answerItem a env {}).1 := by
  obtain ⟨heq, -⟩ := CallEnv.eq_of_blind hblind
  have htime : env'.sentAt = env.sentAt := by rw [heq]
  cases a with
  | rejectNil =>
    simp only [answerItem, failed, Eff.query_apply, htime]
  | rejectInvalid email err => simp only [answerItem, failed, Eff.query_apply, htime]
  | deliver async email =>
    refine (h.carries async email).bind_eq_of_blind hblind (fun _ _ => rfl) fun err err' t t' => ?_
    simp only [delivered, failed, Eff.query_apply, htime]

end Handler.EmailHandler

namespace Rpc.Server

open MailBaby.Core

variable (s : Server)

def errorContext (async : Bool) : String :=
  if async then "rpc: failed to enqueue email: " else "rpc: delivery failed: "

lemma carries (async : Bool) (email : Email) :
    Carries s.svc s.toJSON async email (fun err => Status.mk .internal (errorContext async ++ err.text))
      SendMailResponse.id SendMailResponse.status (s.deliver async email) := by
  cases hsvc : s.svc with
  | none =>
    cases async with
    | true => exact .of_refusal _ rfl (by simp only [deliver, if_true, sendAsync, hsvc]; rfl)
    | false =>
      exact .of_refusal _ rfl (by simp only [deliver, Bool.false_eq_true, if_false, sendSync, hsvc]; rfl)
  | some svc =>
    cases async with
    | true =>
      apply Carries.of_deliver (f := wrap "rpc: failed to enqueue email: ")
      · simp only [deliver, SendService.deliver, if_true, sendAsync, hsvc]
      · exact fun err => rfl
      · exact fun out => ⟨_, rfl, rfl, rfl⟩
    | false =>
      cases hsender : svc.sender with
      | false =>
        refine .of_refusal ⟨.unavailable, "rpc: smtp sender is not initialized"⟩ hsender ?_
        simp only [deliver, Bool.false_eq_true, if_false, sendSync, hsvc, hsender, Bool.not_false, if_true]
      | true =>
        apply Carries.of_deliver (f := wrap "rpc: delivery failed: ")
        · simp only [deliver, SendService.deliver, Bool.false_eq_true, if_false, sendSync, hsvc, hsender,
            Bool.not_true]
        · exact fun err => rfl
        · exact fun out => ⟨_, rfl, rfl, rfl⟩

lemma settles_answerItem (a : Action) :
    Settles s.svc s.toJSON a SendMailResponse.status (s.answerItem a) := by
  cases a with
  | rejectNil => exact .of_reject rfl fun env => ⟨_, _, rfl, rfl⟩
  | rejectInvalid email err => exact .of_reject rfl fun env => ⟨_, _, rfl, rfl⟩
  | deliver async email =>
    exact (s.carries async email).settles (fun _ => rfl) fun err env t => ⟨_, rfl, rfl⟩

lemma answerItem_eq_of_blind (a : Action) {env env' : CallEnv} (hblind : env'.blind = env.blind)
    (hno : callsOut s.svc s.toJSON a = true → env.result.isError = false) :
    (s.answerItem a env' {}).1 = (s.answerItem a env {}).1 := by
  obtain ⟨heq, -⟩ := CallEnv.eq_of_blind hblind
  have htime : env'.sentAt = env.sentAt := by rw [heq]
  cases a with
  | rejectNil => simp only [answerItem, failed, Eff.query_apply, htime]
  | rejectInvalid email err => simp only [answerItem, failed, Eff.query_apply, htime]
  | deliver async email =>
    refine (s.carries async email).bind_eq_of_no_error hblind hno fun result t => ?_
    cases result with
    | error status => simp only [delivered, failed, Eff.query_apply, htime]
    | ok resp => rfl

def itemContext (async : Bool) : String :=
  (if async then "enqueue failed: " else "delivery failed: ") ++
    ("rpc error: code = " ++ Code.internal.name ++ " desc = " ++ errorContext async)

lemma itemMessage (async : Bool) (err : GoError) :
    (if async then "enqueue failed: " else "delivery failed: ") ++
      (Status.mk .internal (errorContext async ++ err.text)).error = itemContext async ++ err.text := by
  unfold Status.error itemContext
  simp only [String.append_assoc]

lemma answerItem_of_error {async : Bool} {email : Email} {env : CallEnv} {err : GoError}
    (hcalls : callsOut s.svc s.toJSON (.deliver async email) = true)
    (herr : env.result = .returns (some err)) :
    (s.answerItem (.deliver async email) env {}).1 =
      .ok (false, ⟨email.id, "failed", itemContext async ++ err.text, env.sentAt⟩) := by
  obtain ⟨t, ht⟩ := (s.carries async email).error hcalls herr
  rw [answerItem, Eff.bind_of_ok ht, delivered, failed, Eff.query_apply, itemMessage]

end Rpc.Server

/-! ### Whole requests -/

namespace SendApi

open MailBaby.Core

def reported {ρ : Type} (status : ρ → String) (results : List (Option ρ)) (i : Nat) : Bool :=
  results[i]?.any fun r => r.map status ≠ some "failed"

/-- The client is told that the email with this index was taken. -/
def Answer.ReportsSuccess (i : Nat) : Answer → Prop
  | .http resp =>
    match resp.body with
    | .batch b => reported (·.status) b.results i = true
    | _ => i = 0 ∧ (resp.statusCode = 200 ∨ resp.statusCode = 202)
  | .rpc results => i = 0 ∧ results.2 = none
  | .rpcBatch results => results.2 = none ∧ ∃ b ∈ results.1, reported (·.status) b.results i = true

/-- The process survives, and a success is reported for emails that were taken only. -/
def PanicSafe (svc : Option SendService) (served : Option Answer × List Trace) : Prop :=
  ∃ answer, served.1 = some answer ∧
    ∀ i, answer.ReportsSuccess i → ∃ t, served.2[i]? = some t ∧ t.Delivered svc

variable (api : SendApi)

/-- A call of `Send` or `Publish` that the request makes ends as `P` says. -/
def Meets (envs : Nat → CallEnv) (req : Request) (P : CallResult → Bool) : Prop :=
  ∃ i a, (api.actions (fun i => (envs i).generatedID) req)[i]? = some a ∧
    callsOut api.svc api.toJSON a = true ∧ P (envs i).result = true

section Batch

variable {ρ : Type} {svc : Option SendService} {toJSON : Email → Except GoError Bytes}
  {status : ρ → String} {act : Nat → Action} {q : Nat → SendProc (Bool × ρ)} {n : Nat}

lemma reported_collected {out : Nat → Bool × ρ} {i : Nat}
    (h : reported status (Tally.collected out n).results i = true) :
    i < n ∧ status (out i).2 ≠ "failed" := by
  unfold reported Tally.collected at h
  by_cases hi : i < n
  · simpa [hi] using h
  · simp [hi] at h

lemma fanOut_safe_iff [Nonempty ρ] (hq : ∀ i, Settles svc toJSON (act i) status (q i)) (envs : Nat → CallEnv)
    (sched : LockOrder n) :
    (∃ tally, fanOut (fun i => (q i (envs i) {}).1) sched = some tally ∧
        ∀ i, reported status tally.results i = true → i < n ∧ (q i (envs i) {}).2.Delivered svc) ↔
      ∀ i < n, ¬(callsOut svc toJSON (act i) = true ∧ (envs i).result.isPanic = true) := by
  constructor
  · rintro ⟨tally, hrun, -⟩ i hi hpanics
    obtain ⟨v, hv⟩ := ((hq i).panics_iff (envs i)).mpr hpanics
    rw [fanOut_of_error hi hv] at hrun
    cases hrun
  · intro hno
    have hout : ∀ i, ∃ out, i < n → (q i (envs i) {}).1 = .ok out := by
      intro i
      cases hrun : (q i (envs i) {}).1 with
      | error v =>
        exact ⟨Classical.arbitrary _, fun hi => absurd (((hq i).panics_iff (envs i)).mp ⟨v, hrun⟩) (hno i hi)⟩
      | ok out => exact ⟨out, fun _ => rfl⟩
    choose out hout using hout
    refine ⟨_, fanOut_of_ok hout sched, fun i hi => ?_⟩
    obtain ⟨hlt, hstatus⟩ := reported_collected hi
    exact ⟨hlt, (hq i).delivered (hout i hlt) hstatus⟩

lemma panicSafe_batch [Nonempty ρ] (hq : ∀ i, Settles svc toJSON (act i) status (q i))
    (envs : Nat → CallEnv) (sched : LockOrder n) {answer : Tally ρ → Answer}
    (hanswer : ∀ tally i, (answer tally).ReportsSuccess i ↔ reported status tally.results i = true) :
    PanicSafe svc ((fanOut (fun i => (q i (envs i) {}).1) sched).map answer,
        (List.range n).map fun i => (q i (envs i) {}).2) ↔
      ¬∃ i < n, callsOut svc toJSON (act i) = true ∧ (envs i).result.isPanic = true := by
  have hiff := fanOut_safe_iff hq envs sched
  have htrace : ∀ {i}, i < n → ((List.range n).map fun i => (q i (envs i) {}).2)[i]? =
      some (q i (envs i) {}).2 := by
    intro i hi
    simp [hi]
  push Not
  simp only [not_and] at hiff
  refine Iff.trans ?_ hiff
  constructor
  · rintro ⟨_, hrun, hsafe⟩
    obtain ⟨tally, htally, rfl⟩ := Option.map_eq_some_iff.mp hrun
    refine ⟨tally, htally, fun i hi => ?_⟩
    obtain ⟨t, ht, hdelivered⟩ := hsafe i ((hanswer tally i).mpr hi)
    have hlt : i < n := by
      by_contra hge
      simp [hge] at ht
    rw [htrace hlt] at ht
    cases ht
    exact ⟨hlt, hdelivered⟩
  · rintro ⟨tally, htally, hsafe⟩
    refine ⟨answer tally, Option.map_eq_some_iff.mpr ⟨tally, htally, rfl⟩, fun i hi => ?_⟩
    obtain ⟨hlt, hdelivered⟩ := hsafe i ((hanswer tally i).mp hi)
    exact ⟨_, htrace hlt, hdelivered⟩

end Batch

lemma panicSafe_serveOne {α : Type} {svc : Option SendService} {p : SendProc α} {env : CallEnv} {a : α}
    {t : Trace} (answer : α → Answer) (h : p env {} = (.ok a, t))
    (hzero : ∀ i, (answer a).ReportsSuccess i → i = 0) :
    PanicSafe svc (serveOne p env answer) ↔ ((answer a).ReportsSuccess 0 → t.Delivered svc) := by
  unfold PanicSafe serveOne
  rw [h]
  constructor
  · rintro ⟨_, hanswer, hsafe⟩ hreports
    cases hanswer
    obtain ⟨t', ht', hdelivered⟩ := hsafe 0 hreports
    cases ht'
    exact hdelivered
  · intro hsafe
    refine ⟨answer a, rfl, fun i hi => ?_⟩
    obtain rfl := hzero i hi
    exact ⟨t, rfl, hsafe hi⟩

def reword (envs : Nat → CallEnv) (i : Nat) (text : String) : Nat → CallEnv :=
  Function.update envs i { envs i with result := .returns (some ⟨text⟩) }

section Reword

variable (envs : Nat → CallEnv) (i : Nat) (text : String)

lemma reword_self : reword envs i text i = { envs i with result := .returns (some ⟨text⟩) } :=
  Function.update_self ..

lemma result_reword : (reword envs i text i).result = .returns (some ⟨text⟩) := by
  rw [reword_self]

lemma generatedID_reword : (reword envs i text i).generatedID = (envs i).generatedID := by
  rw [reword_self]

end Reword

lemma blind_reword {envs : Nat → CallEnv} {i : Nat} (h : (envs i).result.isError = true) (text : String)
    (j : Nat) : (reword envs i text j).blind = (envs j).blind := by
  by_cases hj : j = i
  · subst hj
    obtain ⟨err, herr⟩ := CallResult.exists_of_isError h
    rw [reword_self, CallEnv.blind, CallEnv.blind, herr]
    rfl
  · rw [reword, Function.update_of_ne hj]

lemma append_ne_append_x (before text : String) : before ++ (text ++ "x") ≠ before ++ text := by
  intro h
  have hlength := congrArg String.length h
  simp only [String.length_append] at hlength
  simp at hlength

lemma serveOne_congr {α : Type} {p q : SendProc α} {env env' : CallEnv} (h : (p env {}).1 = (q env' {}).1)
    (answer : α → Answer) : (serveOne p env answer).1 = (serveOne q env' answer).1 := by
  unfold serveOne
  rw [h]

section Meets

variable {api} {envs : Nat → CallEnv} {req : Request} {P : CallResult → Bool}

lemma not_meets_of_nil (h : api.actions (fun i => (envs i).generatedID) req = []) :
    ¬api.Meets envs req P := by
  rintro ⟨i, a, ha, -⟩
  rw [h] at ha
  cases ha

lemma meets_of_singleton {a : Action} (h : api.actions (fun i => (envs i).generatedID) req = [a]) :
    api.Meets envs req P ↔ callsOut api.svc api.toJSON a = true ∧ P (envs 0).result = true := by
  constructor
  · rintro ⟨_ | i, a', ha, hmeets⟩
    · rw [h] at ha
      cases ha
      exact hmeets
    · rw [h] at ha
      cases ha
  · intro hmeets
    exact ⟨0, a, by rw [h]; rfl, hmeets⟩

lemma meets_of_mapIdx {items : List (Option SendRequest)} {act : Nat → Option SendRequest → Action}
    (h : api.actions (fun i => (envs i).generatedID) req = items.mapIdx act) :
    api.Meets envs req P ↔ ∃ i < items.length,
      callsOut api.svc api.toJSON (act i (items.getD i none)) = true ∧ P (envs i).result = true := by
  unfold Meets
  rw [h]
  constructor
  · rintro ⟨i, a, ha, hmeets⟩
    rw [List.getElem?_mapIdx, Option.map_eq_some_iff] at ha
    obtain ⟨item, hitem, rfl⟩ := ha
    refine ⟨i, (List.getElem?_eq_some_iff.mp hitem).1, ?_⟩
    rw [List.getD_eq_getElem?_getD, hitem]
    exact hmeets
  · rintro ⟨i, hi, hmeets⟩
    refine ⟨i, _, ?_, hmeets⟩
    rw [List.getElem?_mapIdx, List.getD_eq_getElem?_getD, List.getElem?_eq_getElem hi]
    rfl

end Meets

end SendApi

/-! ### Panics -/

namespace Handler.EmailHandler

open MailBaby.Core SendApi

variable {h : EmailHandler}

def IsRefusal (resp : Response) : Prop :=
  ∃ code errStr details, resp = writeError code errStr details ∧ code ≠ 200 ∧ code ≠ 202

lemma IsRefusal.not_reportsSuccess {resp : Response} (hresp : IsRefusal resp) (i : Nat) :
    ¬(Answer.http resp).ReportsSuccess i := by
  obtain ⟨code, errStr, details, rfl, h200, h202⟩ := hresp
  rintro ⟨-, hcode⟩
  exact hcode.elim h200 h202

lemma isRefusal_of_parse {α : Type} {d : Decoder α} {zero : α} {limit : Nat} {r : Request} {resp : Response}
    (hparse : h.parse d zero limit r = .error resp) : IsRefusal resp := by
  unfold parse at hparse
  split at hparse
  · cases hparse
    exact ⟨_, _, _, rfl, by decide, by decide⟩
  · split at hparse
    · cases hparse
      exact ⟨_, _, _, rfl, by decide, by decide⟩
    · split at hparse
      · cases hparse
        exact ⟨_, _, _, rfl, by decide, by decide⟩
      · cases hparse

lemma isRefusal_of_parseBatch {r : Request} {resp : Response} (hparse : h.parseBatch r = .error resp) :
    IsRefusal resp := by
  unfold parseBatch at hparse
  split at hparse
  · rename_i hinner
    cases hparse
    exact isRefusal_of_parse hinner
  · split at hparse
    · cases hparse
      exact ⟨_, _, _, rfl, by decide, by decide⟩
    · cases hparse

lemma exists_writeInternalError (r : Request) (err : GoError) (publicCode : String) (env : CallEnv)
    (t : Trace) :
    ∃ details, writeInternalError r err publicCode env t = (.ok (writeError 500 publicCode details), t) := by
  unfold writeInternalError getOrAssignTraceID
  split
  · exact ⟨_, rfl⟩
  · exact ⟨_, rfl⟩

lemma answer_cases (h : EmailHandler) (r : Request) (async : Bool) (email : Email) (env : CallEnv) :
    (∃ v t, h.answer r async email env {} = (.error v, t)) ∨
      ∃ resp t, h.answer r async email env {} = (.ok resp, t) ∧
        ∀ i, (Answer.http resp).ReportsSuccess i → i = 0 ∧ t.Delivered h.svc := by
  unfold answer
  cases email.validate h.codec with
  | some err =>
    refine .inr ⟨_, _, rfl, fun i hi => absurd hi ?_⟩
    exact IsRefusal.not_reportsSuccess ⟨_, _, _, rfl, by decide, by decide⟩ i
  | none =>
    dsimp only
    rcases (h.carries async email).cases env with ⟨-, v, t, ht, -⟩ | ⟨-, ⟨err, t, ht⟩ | ⟨resp, t, ht, hdelivered, -⟩⟩
    · exact .inl ⟨v, t, Eff.bind_of_error ht _⟩
    · obtain ⟨details, hwrite⟩ := exists_writeInternalError r err
        (if async then "enqueue_failed" else "delivery_failed") env t
      refine .inr ⟨_, t, (Eff.bind_of_ok ht _).trans hwrite, fun i hi => absurd hi ?_⟩
      exact IsRefusal.not_reportsSuccess ⟨_, _, _, rfl, by decide, by decide⟩ i
    · exact .inr ⟨_, t, Eff.bind_of_ok ht _, fun i hi => ⟨hi.1, hdelivered⟩⟩

lemma handleSend_of_parse {r : Request} {req : SendRequest} (hparse : h.parseSend r = .ok req)
    (env : CallEnv) : h.handleSend r env {} =
      h.answer r (isAsync r req.async) (requestToEmail req env.generatedID) env {} := by
  rw [handleSend, hparse]
  rfl

lemma intercept_safe (h : EmailHandler) (corsOrigin : String) (r : Request) (env : CallEnv) :
    ∃ resp t, intercept corsOrigin r (h.handleSend r) env {} = (.ok resp, t) ∧
      ∀ i, (Answer.http resp).ReportsSuccess i → i = 0 ∧ t.Delivered h.svc := by
  unfold intercept
  split
  · exact ⟨_, _, rfl, fun i hi => by simp [Answer.ReportsSuccess, noContent] at hi⟩
  · cases hparse : h.parseSend r with
    | error resp =>
      refine ⟨resp, {}, Eff.recover_of_ok (by rw [handleSend, hparse]; rfl) _, fun i hi => ?_⟩
      exact absurd hi ((isRefusal_of_parse hparse).not_reportsSuccess i)
    | ok req =>
      have hrun := handleSend_of_parse hparse env
      rcases h.answer_cases r (isAsync r req.async) (requestToEmail req env.generatedID) env with
        ⟨v, t, ht⟩ | ⟨resp, t, ht, hsafe⟩
      · refine ⟨recovered, t, Eff.recover_of_error (hrun.trans ht) _, fun i hi => ?_⟩
        simp [Answer.ReportsSuccess, recovered] at hi
      · exact ⟨resp, t, Eff.recover_of_ok (hrun.trans ht) _, hsafe⟩

lemma answer_eq_of_blind (h : EmailHandler) (r : Request) (async : Bool) (email : Email) {env env' : CallEnv}
    (hblind : env'.blind = env.blind) :
    (h.answer r async email env' {}).1 = (h.answer r async email env {}).1 := by
  obtain ⟨heq, -⟩ := CallEnv.eq_of_blind hblind
  have htrace : env'.traceID = env.traceID := by rw [heq]
  unfold answer
  cases email.validate h.codec with
  | some err => rfl
  | none =>
    refine (h.carries async email).bind_eq_of_blind hblind (fun _ _ => rfl) fun err err' t t' => ?_
    simp only [answered, writeInternalError, getOrAssignTraceID]
    split
    · rfl
    · simp only [Eff.bind_apply, Eff.query_apply, Eff.pure_apply, htrace]

lemma intercept_eq_of_blind (h : EmailHandler) (corsOrigin : String) (r : Request) {env env' : CallEnv}
    (hblind : env'.blind = env.blind) :
    (intercept corsOrigin r (h.handleSend r) env' {}).1 = (intercept corsOrigin r (h.handleSend r) env {}).1 := by
  unfold intercept
  split
  · rfl
  · apply Eff.recover_congr
    cases hparse : h.parseSend r with
    | error resp => simp only [handleSend, hparse, Eff.pure_apply]
    | ok req =>
      rw [handleSend_of_parse hparse, handleSend_of_parse hparse, CallEnv.generatedID_of_blind hblind]
      exact h.answer_eq_of_blind r _ _ hblind

end Handler.EmailHandler

namespace Rpc.Server

open MailBaby.Core SendApi

variable {s : Server}

lemma answer_of_invalid {email : Email} {err : GoError} (h : email.validate s.codec = some err) (async : Bool) :
    s.answer async email =
      pure (none, some ⟨.invalidArgument, "rpc: email validation failed: " ++ err.text⟩) := by
  unfold answer
  rw [h]

lemma answer_of_valid {email : Email} (h : email.validate s.codec = none) (async : Bool) :
    s.answer async email = s.deliver async email >>= fun resp => pure (returned resp) := by
  unfold answer
  rw [h]

lemma sendBody_some (s : Server) (req : SendRequest) (env : CallEnv) : s.sendBody (some req) env {} =
    s.answer req.async (protoToEmail req env.generatedID) env {} := rfl

lemma panicSafe_send {req : Option SendRequest} {env : CallEnv} {results : Results SendMailResponse} {t : Trace}
    (h : s.send req env {} = (.ok results, t)) :
    PanicSafe s.svc (serveOne (s.send req) env .rpc) ↔ (results.2 = none → t.Delivered s.svc) :=
  (panicSafe_serveOne .rpc h fun _ hi => hi.1).trans
    ⟨fun hsafe hnone => hsafe ⟨rfl, hnone⟩, fun hsafe hi => hsafe hi.2⟩

lemma panicSafe_send_iff (req : SendRequest) (env : CallEnv) :
    PanicSafe s.svc (serveOne (s.send (some req)) env .rpc) ↔
      ¬(callsOut s.svc s.toJSON (action s.codec req.async (some (protoToEmail req env.generatedID))) = true ∧
        env.result.isPanic = true) := by
  have hrun := s.sendBody_some req env
  cases hvalid : (protoToEmail req env.generatedID).validate s.codec with
  | some err =>
    rw [answer_of_invalid hvalid] at hrun
    rw [panicSafe_send (Eff.recover_of_ok hrun _), action_of_invalid _ hvalid]
    exact iff_of_true nofun fun h => Bool.false_ne_true h.1
  | none =>
    rw [answer_of_valid hvalid, Eff.bind_pure_apply] at hrun
    rw [action_of_valid _ hvalid]
    rcases (s.carries req.async (protoToEmail req env.generatedID)).cases env with
      ⟨hpanics, v, t, ht, hnot⟩ | ⟨hno, ⟨status, t, ht⟩ | ⟨resp, t, ht, hdelivered, -⟩⟩
    · rw [ht] at hrun
      rw [panicSafe_send (Eff.recover_of_error hrun _)]
      exact iff_of_false (fun h => hnot (h rfl)) fun h => h hpanics
    · rw [ht] at hrun
      rw [panicSafe_send (Eff.recover_of_ok hrun _)]
      exact iff_of_true nofun hno
    · rw [ht] at hrun
      rw [panicSafe_send (Eff.recover_of_ok hrun _)]
      exact iff_of_true (fun _ => hdelivered) hno

lemma send_eq_of_blind (s : Server) (req : SendRequest) {env env' : CallEnv} (hblind : env'.blind = env.blind)
    (hno : callsOut s.svc s.toJSON (action s.codec req.async (some (protoToEmail req env.generatedID))) = true →
      env.result.isError = false) :
    (s.send (some req) env' {}).1 = (s.send (some req) env {}).1 := by
  apply Eff.recover_congr
  rw [sendBody_some, sendBody_some, CallEnv.generatedID_of_blind hblind]
  cases hvalid : (protoToEmail req env.generatedID).validate s.codec with
  | some err => rw [answer_of_invalid hvalid, Eff.pure_apply, Eff.pure_apply]
  | none =>
    rw [action_of_valid _ hvalid] at hno
    rw [answer_of_valid hvalid]
    exact (s.carries req.async _).bind_eq_of_no_error hblind hno fun _ _ => rfl

lemma send_of_error (s : Server) (req : SendRequest) {env : CallEnv} {err : GoError}
    (hcalls : callsOut s.svc s.toJSON (action s.codec req.async (some (protoToEmail req env.generatedID))) =
      true) (herr : env.result = .returns (some err)) :
    (s.send (some req) env {}).1 = .ok (none, some ⟨.internal, errorContext req.async ++ err.text⟩) := by
  have hrun := s.sendBody_some req env
  cases hvalid : (protoToEmail req env.generatedID).validate s.codec with
  | some err =>
    rw [action_of_invalid _ hvalid] at hcalls
    cases hcalls
  | none =>
    rw [action_of_valid _ hvalid] at hcalls
    obtain ⟨t, ht⟩ := (s.carries req.async _).error hcalls herr
    rw [answer_of_valid hvalid, Eff.bind_pure_apply, ht] at hrun
    exact congrArg Prod.fst (Eff.recover_of_ok hrun _)

end Rpc.Server

namespace SendApi

open MailBaby.Core

variable (api : SendApi)

def Refused (req : Request) : Prop :=
  ∃ answer, (∀ envs sched, api.serve envs sched req = (some answer, [])) ∧
    (∀ ids, api.actions ids req = []) ∧ ∀ i, ¬answer.ReportsSuccess i

def httpBatch (n : Nat) (t : Tally Handler.SendEmailResponse) : Answer :=
  .http ⟨200, .batch ⟨n, t.succeeded, t.failed, t.results⟩⟩

lemma handleBatchSend_cases (r : Handler.Request) :
    api.Refused (.handleBatchSend r) ∨ ∃ req : BatchRequest,
      (∀ envs sched, api.serve envs sched (.handleBatchSend r) =
        ((fanOut (fun i => (api.handler.answerItem (api.handler.batchAction r req (req.emails.getD i none)
            (envs i).generatedID) (envs i) {}).1) (sched req.emails.length)).map (httpBatch req.emails.length),
          (List.range req.emails.length).map fun i => (api.handler.answerItem (api.handler.batchAction r req
            (req.emails.getD i none) (envs i).generatedID) (envs i) {}).2)) ∧
      ∀ ids, api.actions ids (.handleBatchSend r) =
        req.emails.mapIdx fun i item => api.handler.batchAction r req item (ids i) := by
  by_cases hpre : Handler.preflight api.corsOrigin r = true
  · refine .inl ⟨.http Handler.noContent, fun envs sched => ?_, fun ids => ?_, fun i hi => ?_⟩
    · rw [serve, if_pos hpre]
    · rw [actions, if_pos hpre]
    · simp [Answer.ReportsSuccess, Handler.noContent] at hi
  · cases hparse : api.handler.parseBatch r with
    | error resp =>
      refine .inl ⟨.http resp, fun envs sched => ?_, fun ids => ?_,
        (Handler.EmailHandler.isRefusal_of_parseBatch hparse).not_reportsSuccess⟩
      · simp only [serve, if_neg hpre, Handler.EmailHandler.handleBatchSend, hparse, Option.map_some]
      · simp only [actions, if_neg hpre, hparse]
    | ok req =>
      refine .inr ⟨req, fun envs sched => ?_, fun ids => ?_⟩
      · simp only [serve, if_neg hpre, Handler.EmailHandler.handleBatchSend, hparse, Option.map_map]
        rfl
      · simp only [actions, if_neg hpre, hparse]

def rpcBatch (n : Nat) (t : Tally Rpc.SendMailResponse) : Answer :=
  .rpcBatch (some ⟨.ofNat n, .ofNat t.succeeded, .ofNat t.failed, t.results⟩, none)

lemma sendBatch_cases (req : Option BatchRequest) :
    api.Refused (.sendBatch req) ∨ ∃ batch : BatchRequest,
      (∀ envs sched, api.serve envs sched (.sendBatch req) =
        ((fanOut (fun i => (api.server.answerItem (api.server.batchAction batch (batch.emails.getD i none)
            (envs i).generatedID) (envs i) {}).1) (sched batch.emails.length)).map (rpcBatch batch.emails.length),
          (List.range batch.emails.length).map fun i => (api.server.answerItem (api.server.batchAction batch
            (batch.emails.getD i none) (envs i).generatedID) (envs i) {}).2)) ∧
      ∀ ids, api.actions ids (.sendBatch req) =
        batch.emails.mapIdx fun i item => api.server.batchAction batch item (ids i) := by
  cases req with
  | none => exact .inl ⟨.rpcBatch Rpc.Server.emptyBatch, fun _ _ => rfl, fun _ => rfl, fun i hi => nomatch hi.1⟩
  | some batch =>
    by_cases hempty : batch.emails.length = 0
    · refine .inl ⟨.rpcBatch Rpc.Server.emptyBatch, fun envs sched => ?_, fun ids => ?_, fun i hi => nomatch hi.1⟩
      · simp only [serve, Rpc.Server.sendBatch, if_pos hempty, Option.map_some]
      · rw [actions, List.length_eq_zero_iff.mp hempty, List.mapIdx_nil]
    · refine .inr ⟨batch, fun envs sched => ?_, fun ids => rfl⟩
      simp only [serve, Rpc.Server.sendBatch, if_neg hempty, Option.map_map]
      rfl

lemma batchAction_eq_iff {r : Handler.Request} (hquery : r.async = "") (batch : BatchRequest)
    (item : Option SendRequest) (generatedID : String) :
    api.handler.batchAction r batch item generatedID = api.server.batchAction batch item generatedID ↔
      batch.async = true ∨ ∀ req, item = some req → (req.email generatedID).validate api.codec = none →
        req.async = false := by
  have hhttp : Handler.isAsync r batch.async = batch.async := by
    rw [Handler.isAsync, hquery]
    exact Bool.or_false _
  unfold Handler.EmailHandler.batchAction Rpc.Server.batchAction
  rw [hhttp]
  cases item with
  | none => exact iff_of_true rfl (.inr nofun)
  | some req =>
    simp only [Option.map_some, Option.any_some, Option.some.injEq, forall_eq', Handler.requestToEmail,
      Rpc.protoToEmail]
    cases hvalid : (req.email generatedID).validate api.codec with
    | some err =>
      refine iff_of_true ?_ (.inr nofun)
      exact (action_of_invalid _ hvalid).trans (action_of_invalid _ hvalid).symm
    | none =>
      rw [handler, server, action_of_valid _ hvalid, action_of_valid _ hvalid, Action.deliver.injEq]
      cases batch.async <;> cases req.async <;> simp

lemma results_of_rpcBatch {n : Nat} {t t' : Tally Rpc.SendMailResponse} (h : rpcBatch n t = rpcBatch n t') :
    t.results = t'.results := by
  simp only [rpcBatch, Answer.rpcBatch.injEq, Prod.mk.injEq, Option.some.injEq,
    Rpc.BatchSendMailResponse.mk.injEq, true_and, and_true] at h
  exact h.2.2

lemma fanOut_hidden_iff (s : Rpc.Server) (act : Nat → Action) (envs : Nat → CallEnv) {n : Nat}
    (sched : LockOrder n) :
    (∀ envs' : Nat → CallEnv, (∀ i, (envs' i).blind = (envs i).blind) →
        (fanOut (fun i => (s.answerItem (act i) (envs' i) {}).1) sched).map (rpcBatch n) =
          (fanOut (fun i => (s.answerItem (act i) (envs i) {}).1) sched).map (rpcBatch n)) ↔
      (∃ i < n, callsOut s.svc s.toJSON (act i) = true ∧ (envs i).result.isPanic = true) ∨
        ¬∃ i < n, callsOut s.svc s.toJSON (act i) = true ∧ (envs i).result.isError = true := by
  constructor
  · intro hhidden
    by_contra hnot
    push Not at hnot
    obtain ⟨hno, i, hi, hcalls, herror⟩ := hnot
    obtain ⟨err, herr⟩ := CallResult.exists_of_isError herror
    have hrun := hhidden (reword envs i (err.text ++ "x")) (blind_reword herror _)
    have hne : Nonempty Rpc.SendMailResponse := ⟨⟨"", "", "", 0⟩⟩
    obtain ⟨tally, htally, -⟩ := (fanOut_safe_iff (fun i => s.settles_answerItem (act i)) envs sched).mpr
      fun j hj hpanics => hno j hj hpanics.1 hpanics.2
    rw [htally] at hrun
    obtain ⟨tally', htally', hanswer⟩ := Option.map_eq_some_iff.mp hrun
    -- the slot of the item whose call fails tells the two runs apart
    cases ha : act i with
    | rejectNil => simp [ha, callsOut] at hcalls
    | rejectInvalid email err => simp [ha, callsOut] at hcalls
    | deliver async email =>
      rw [ha] at hcalls
      have hold := getElem?_results htally hi (by rw [ha]; exact s.answerItem_of_error hcalls herr)
      have hnew := getElem?_results htally' hi
        (by rw [ha]; exact s.answerItem_of_error hcalls (result_reword envs i _))
      rw [results_of_rpcBatch hanswer, hold] at hnew
      simp only [Option.some.injEq, Rpc.SendMailResponse.mk.injEq, true_and] at hnew
      exact append_ne_append_x _ _ hnew.1.symm
  · rintro (⟨i, hi, hcalls, hpanic⟩ | hno) envs' hblind
    · have hpanic' : (envs' i).result.isPanic = true :=
        (CallResult.isPanic_of_blind (CallEnv.eq_of_blind (hblind i)).2).trans hpanic
      obtain ⟨v, hv⟩ := ((s.settles_answerItem (act i)).panics_iff (envs i)).mpr ⟨hcalls, hpanic⟩
      obtain ⟨v', hv'⟩ := ((s.settles_answerItem (act i)).panics_iff (envs' i)).mpr ⟨hcalls, hpanic'⟩
      rw [fanOut_of_error hi hv', fanOut_of_error hi hv]
    · refine congrArg (Option.map _) (fanOut_congr (fun i hi => ?_) sched)
      refine s.answerItem_eq_of_blind (act i) (hblind i) fun hcalls => ?_
      exact eq_false_of_ne_true fun herror => hno ⟨i, hi, hcalls, herror⟩

variable {api} in
lemma Refused.panicSafe {req : Request} (h : api.Refused req) (envs : Nat → CallEnv)
    (sched : ∀ n, LockOrder n) :
    PanicSafe api.svc (api.serve envs sched req) ∧ ∀ P, ¬api.Meets envs req P := by
  obtain ⟨answer, hserve, hactions, hreports⟩ := h
  refine ⟨⟨answer, by rw [hserve], fun i hi => absurd hi (hreports i)⟩, fun P => ?_⟩
  exact not_meets_of_nil (hactions _)

end SendApi

end MailBaby

namespace MailBaby.Proofs

open Lib MailBaby.Core SendApi

/-- A panic of the sender or of the queue is handled by `HandleSend` only: it ends the process in a
batch, and `Send` answers it with a success. -/
theorem panic_reported_iff (api : SendApi) (envs : Nat → CallEnv) (sched : ∀ n, LockOrder n)
    (req : Request) :
    PanicSafe api.svc (api.serve envs sched req) ↔
      req.isHandleSend = true ∨ ¬api.Meets envs req (·.isPanic) := by
  cases req with
  | handleSend r =>
    obtain ⟨resp, t, ht, hsafe⟩ := api.handler.intercept_safe api.corsOrigin r (envs 0)
    refine iff_of_true ?_ (.inl rfl)
    exact (panicSafe_serveOne .http ht fun i hi => (hsafe i hi).1).mpr fun h => (hsafe 0 h).2
  | handleBatchSend r =>
    refine Iff.trans ?_ (or_iff_right Bool.false_ne_true).symm
    rcases api.handleBatchSend_cases r with hrefused | ⟨req, hserve, hactions⟩
    · obtain ⟨hsafe, hmeets⟩ := hrefused.panicSafe envs sched
      exact iff_of_true hsafe (hmeets _)
    · have hne : Nonempty Handler.SendEmailResponse := ⟨⟨"", "", "", 0⟩⟩
      rw [meets_of_mapIdx (hactions _), hserve]
      exact panicSafe_batch (fun i => api.handler.settles_answerItem _) envs _ fun _ _ => Iff.rfl
  | send req =>
    refine Iff.trans ?_ (or_iff_right Bool.false_ne_true).symm
    cases req with
    | none =>
      refine iff_of_true ?_ (not_meets_of_nil rfl)
      exact (Rpc.Server.panicSafe_send (s := api.server) rfl).mpr nofun
    | some req =>
      rw [meets_of_singleton rfl]
      exact Rpc.Server.panicSafe_send_iff req (envs 0)
  | sendBatch req =>
    refine Iff.trans ?_ (or_iff_right Bool.false_ne_true).symm
    rcases api.sendBatch_cases req with hrefused | ⟨batch, hserve, hactions⟩
    · obtain ⟨hsafe, hmeets⟩ := hrefused.panicSafe envs sched
      exact iff_of_true hsafe (hmeets _)
    · have hne : Nonempty Rpc.SendMailResponse := ⟨⟨"", "", "", 0⟩⟩
      rw [meets_of_mapIdx (hactions _), hserve]
      refine panicSafe_batch (fun i => api.server.settles_answerItem _) envs _ fun tally i => ?_
      simp [Answer.ReportsSuccess, rpcBatch]

/-- The text of an error reaches the client exactly over gRPC, if a call that the request makes returns
an error and none of them ends the process. -/
theorem error_text_hidden_iff (api : SendApi) (envs : Nat → CallEnv) (sched : ∀ n, LockOrder n)
    (req : Request) :
    (∀ envs', (∀ i, (envs' i).blind = (envs i).blind) →
        (api.serve envs' sched req).1 = (api.serve envs sched req).1) ↔
      req.overHTTP = true ∨ api.Meets envs req (·.isPanic) ∨ ¬api.Meets envs req (·.isError) := by
  cases req with
  | handleSend r =>
    refine iff_of_true (fun envs' hblind => ?_) (.inl rfl)
    exact serveOne_congr (api.handler.intercept_eq_of_blind api.corsOrigin r (hblind 0)) _
  | handleBatchSend r =>
    refine iff_of_true (fun envs' hblind => ?_) (.inl rfl)
    rcases api.handleBatchSend_cases r with ⟨answer, hserve, -⟩ | ⟨req, hserve, -⟩
    · rw [hserve, hserve]
    · rw [hserve, hserve]
      refine congrArg (Option.map _) (congrArg (fanOut · _) (funext fun i => ?_))
      rw [CallEnv.generatedID_of_blind (hblind i)]
      exact api.handler.answerItem_eq_of_blind _ (hblind i)
  | send req =>
    refine Iff.trans ?_ (or_iff_right Bool.false_ne_true).symm
    cases req with
    | none => exact iff_of_true (fun _ _ => rfl) (.inr (not_meets_of_nil rfl))
    | some req =>
      rw [meets_of_singleton rfl, meets_of_singleton rfl]
      constructor
      · intro hhidden
        by_contra hnot
        push Not at hnot
        obtain ⟨-, hcalls, herror⟩ := hnot
        obtain ⟨err, herr⟩ := CallResult.exists_of_isError herror
        have hrun := hhidden (reword envs 0 (err.text ++ "x")) (blind_reword herror _)
        simp only [serve, serveOne] at hrun
        rw [api.server.send_of_error req hcalls herr, api.server.send_of_error req
          (by rw [generatedID_reword]; exact hcalls) (result_reword envs 0 _)] at hrun
        simp only [Except.toOption, Option.map_some, Option.some.injEq, Answer.rpc.injEq, Prod.mk.injEq,
          Rpc.Status.mk.injEq, true_and] at hrun
        exact append_ne_append_x _ _ hrun
      · intro hcond envs' hblind
        refine serveOne_congr (api.server.send_eq_of_blind req (hblind 0) fun hcalls => ?_) _
        rcases hcond with ⟨-, hpanic⟩ | hno
        · obtain ⟨v, hv⟩ := CallResult.exists_of_isPanic hpanic
          rw [hv]
          rfl
        · exact eq_false_of_ne_true fun herror => hno ⟨hcalls, herror⟩
  | sendBatch req =>
    refine Iff.trans ?_ (or_iff_right Bool.false_ne_true).symm
    rcases api.sendBatch_cases req with hrefused | ⟨batch, hserve, hactions⟩
    · obtain ⟨-, hmeets⟩ := hrefused.panicSafe envs sched
      obtain ⟨answer, hserve, -⟩ := hrefused
      exact iff_of_true (fun envs' _ => by rw [hserve, hserve]) (.inr (hmeets _))
    · rw [meets_of_mapIdx (hactions _), meets_of_mapIdx (hactions _)]
      refine Iff.trans ?_ (fanOut_hidden_iff api.server _ envs (sched batch.emails.length))
      refine forall₂_congr fun envs' hblind => ?_
      have hids : ∀ i, (envs' i).generatedID = (envs i).generatedID := fun i =>
        CallEnv.generatedID_of_blind (hblind i)
      simp only [hserve, hids]

/-- The two servers take the same action for every item of a batch exactly if the batch as a whole is
asynchronous, or no valid item asks for it on its own. -/
theorem batch_actions_agree_iff (api : SendApi) (ids : Nat → String) {r : Handler.Request}
    (hquery : r.async = "") (batch : BatchRequest) :
    (∀ i item, batch.emails[i]? = some item →
        api.handler.batchAction r batch item (ids i) = api.server.batchAction batch item (ids i)) ↔
      batch.async = true ∨ ∀ (i : Nat) (req : SendRequest), batch.emails[i]? = some (some req) →
        (req.email (ids i)).validate api.codec = none → req.async = false := by
  simp only [api.batchAction_eq_iff hquery]
  by_cases hbatch : batch.async = true
  · simp only [hbatch, true_or, implies_true]
  · simp only [hbatch, Bool.false_eq_true, false_or]
    constructor
    · intro hagree i req hreq
      exact hagree i (some req) hreq req rfl
    · rintro hno i _ hitem req rfl
      exact hno i req hitem

def mailApi : SendApi := ⟨some ⟨true, true, "mail"⟩, ⟨fun _ => .ok {}, .ok⟩, fun _ => .ok [], fun _ => ⟨"json"⟩, ""⟩

def mailRequest (async : Bool) : SendRequest := { id := "42", toAddrs := ["a@b.c"], async := async }

def mailBatch (async : Bool) : BatchRequest := { emails := [some (mailRequest async)] }

theorem batch_actions_agree_iff_sync :
    ({} : Handler.Request).async = "" ∧
    mailApi.handler.batchAction {} (mailBatch false) (some (mailRequest false)) "" =
      mailApi.server.batchAction (mailBatch false) (some (mailRequest false)) "" := by
  have hnone : ∀ (i : Nat) (req : SendRequest), (mailBatch false).emails[i]? = some (some req) →
      (req.email "").validate mailApi.codec = none → req.async = false := by
    rintro (_ | i) req hreq -
    · cases hreq
      rfl
    · cases hreq
  exact ⟨rfl, (batch_actions_agree_iff mailApi (fun _ => "") rfl (mailBatch false)).mpr (.inr hnone) 0 _ rfl⟩

/-- An item that asks to be queued is sent at once over HTTP and queued over gRPC. -/
theorem item_flag_ignored_over_http :
    mailApi.handler.batchAction {} (mailBatch true) (some (mailRequest true)) "" =
      .deliver false { id := "42", toAddrs := ["a@b.c"] } ∧
    mailApi.server.batchAction (mailBatch true) (some (mailRequest true)) "" =
      .deliver true { id := "42", toAddrs := ["a@b.c"] } :=
  ⟨rfl, rfl⟩

def outside (result : CallResult) (_ : Nat) : CallEnv := { result := result }

/-- The sender panics: `Send` answers with the status OK, and batches end the process. -/
theorem panic_reported_as_success :
    mailApi.serve (outside (.panics "nil map")) .inOrder (.send (some (mailRequest false))) =
      (some (.rpc (none, none)), [{ calls := [.send { id := "42", toAddrs := ["a@b.c"] } (.panics "nil map")] }]) ∧
    (mailApi.serve (outside (.panics "nil map")) .inOrder (.sendBatch (some (mailBatch false)))).1 = none ∧
    ¬PanicSafe mailApi.svc
      (mailApi.serve (outside (.panics "nil map")) .inOrder (.send (some (mailRequest false)))) ∧
    ¬PanicSafe mailApi.svc
      (mailApi.serve (outside (.panics "nil map")) .inOrder (.sendBatch (some (mailBatch false)))) := by
  refine ⟨rfl, rfl, fun hsafe => ?_, fun ⟨_, hanswer, _⟩ => nomatch hanswer⟩
  have hdelivered := (Rpc.Server.panicSafe_send (s := mailApi.server) rfl).mp hsafe rfl
  simp [Trace.Delivered, outside] at hdelivered

/-- Two errors of the sender, told apart by the status of the call. -/
theorem error_text_reaches_client :
    (mailApi.serve (outside (.returns (some ⟨"dial tcp 10.0.0.5:25"⟩))) .inOrder
        (.send (some (mailRequest false)))).1 =
      some (.rpc (none, some ⟨.internal, "rpc: delivery failed: dial tcp 10.0.0.5:25"⟩)) ∧
    (mailApi.serve (outside (.returns (some ⟨"timeout"⟩))) .inOrder (.send (some (mailRequest false)))).1 =
      some (.rpc (none, some ⟨.internal, "rpc: delivery failed: timeout"⟩)) :=
  ⟨rfl, rfl⟩

end MailBaby.Proofs
