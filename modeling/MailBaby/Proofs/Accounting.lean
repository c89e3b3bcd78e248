import MailBaby.Proofs.AtLeastOnce
import MailBaby.Proofs.Invocations
import MailBaby.Proofs.RetryBudget

/-!
# What the engine's counters count

Each invocation adds to the shared counters, so that at any time they are the sums of what the invocations
have added.
-/

namespace MailBaby

open Lib

variable {ms : List (Move Input Unit)} {c : System Stats Invocation}

/-! ### Middlewares and the counters -/

/-- Equal apart from the retries and the dead letters. -/
structure SameCounters (s s' : Stats) : Prop where
  inFlight : s.inFlight = s'.inFlight
  totalReceived : s.totalReceived = s'.totalReceived
  totalSuccess : s.totalSuccess = s'.totalSuccess
  totalFailed : s.totalFailed = s'.totalFailed

lemma SameCounters.trans {s s' s'' : Stats} (h : SameCounters s s') (h' : SameCounters s' s'') : SameCounters s s'' :=
  ⟨h.inFlight.trans h'.inFlight, h.totalReceived.trans h'.totalReceived,
    h.totalSuccess.trans h'.totalSuccess, h.totalFailed.trans h'.totalFailed⟩

def KeepsCounters {α : Type} (p : Proc α) : Prop := ∀ env w, SameCounters (p env w).2.stats w.stats

/-- The counters are private to the package of the engine: a middleware of another package leaves them
alone if what it wraps does. -/
def Middleware.KeepsCounters (mw : Middleware) : Prop :=
  ∀ next : ProcessFunc, (∀ email, MailBaby.KeepsCounters (next email)) →
    ∀ email, MailBaby.KeepsCounters (mw next email)

namespace Engine

lemma buildChain_induction {P : ProcessFunc → Prop} {mws : List Middleware} {final : ProcessFunc}
    (h : ∀ mw ∈ mws, ∀ next, P next → P (mw next)) (hfinal : P final) : P (buildChain mws final) := by
  induction mws with
  | nil => exact hfinal
  | cons mw mws ih =>
    obtain ⟨hmw, hmws⟩ := List.forall_mem_cons.mp h
    exact hmw _ (ih hmws)

lemma builtin_world {q : Queue} {mw : Middleware} (h : mw ∈ builtinMiddlewares q) (next : ProcessFunc) (email : Email)
    (env : Env) (w : World) :
    ∃ ms ms', (mw next email env w).2 = { (next email env { w with metrics := ms }).2 with metrics := ms' } := by
  simp only [builtinMiddlewares, List.mem_cons, List.not_mem_nil, or_false] at h
  obtain rfl | rfl | rfl | rfl := h
  · refine ⟨w.metrics, (next email env w).2.metrics, ?_⟩
    unfold recoveryMiddleware
    rcases hrun : next email env w with ⟨_ | a, w'⟩
    · rw [Eff.recover_of_error hrun]
    · rw [Eff.recover_of_ok hrun]
  · exact ⟨w.metrics, (next email env w).2.metrics, rfl⟩
  · let ms := w.metrics ++ [.queueReceived q.driver.name q.name]
    have hmetrics : metricsMiddleware q.driver.name q.name next email env w = (next email >>= fun err =>
      Eff.update (World.recordAll · (outcomeMetrics q.driver.name q.name email err)) >>= fun _ => pure err) env
        { w with metrics := ms } := rfl
    rw [hmetrics]
    rcases hrun : next email env { w with metrics := ms } with ⟨_ | err, w'⟩
    · refine ⟨ms, w'.metrics, ?_⟩
      rw [Eff.bind_of_error hrun, hrun]
    · refine ⟨ms, w'.metrics ++ outcomeMetrics q.driver.name q.name email err, ?_⟩
      rw [Eff.bind_of_ok hrun, hrun]
      rfl
  · exact ⟨w.metrics, (next email env w).2.metrics, rfl⟩

lemma keepsCounters_builtin {q : Queue} {mw : Middleware} (h : mw ∈ builtinMiddlewares q) :
    mw.KeepsCounters := by
  intro next hnext email env w
  obtain ⟨ms, ms', hw⟩ := builtin_world h next email env w
  rw [hw]
  exact hnext email env { w with metrics := ms }

lemma keepsCounters_sendWithRetry (e : Engine) (email : Email) : KeepsCounters (e.sendWithRetry email) := by
  intro env w
  obtain ⟨r, w', evs, k, hrun, -, hleaves⟩ :=
    attempts_tries e email env (env.done w.clock) (e.budget w.msg) 0 none w fun _ => rfl
  have hsend : e.sendWithRetry email env w = (r, w') := hrun
  rw [hsend, hleaves.stats]
  exact ⟨rfl, rfl, rfl, rfl⟩

lemma new_middlewares (q : Queue) (cfg : Option Config) (opts : List EngineOption) :
    ∃ mws, (Engine.new q cfg opts).middlewares = builtinMiddlewares q ++ mws ∧
      ∀ mw ∈ mws, ∃ added, .withMiddlewares added ∈ opts ∧ mw ∈ added := by
  have hfold : ∀ (opts : List EngineOption) (e : Engine),
      ∃ mws, (opts.foldl EngineOption.apply e).middlewares = e.middlewares ++ mws ∧
        ∀ mw ∈ mws, ∃ added, .withMiddlewares added ∈ opts ∧ mw ∈ added := by
    intro opts
    induction opts with
    | nil => exact fun e => ⟨[], (List.append_nil _).symm, by simp⟩
    | cons o opts ih =>
      intro e
      obtain ⟨mws, hmws, hmem⟩ := ih (o.apply e)
      obtain ⟨added, hadded, ho⟩ : ∃ added, (o.apply e).middlewares = e.middlewares ++ added ∧
          (added = [] ∨ o = .withMiddlewares added) := by
        cases o with
        | withMiddlewares added => exact ⟨added, rfl, Or.inr rfl⟩
        | withErrorHandler => exact ⟨[], (List.append_nil _).symm, Or.inl rfl⟩
        | withDLQ => exact ⟨[], (List.append_nil _).symm, Or.inl rfl⟩
        | _ =>
          refine ⟨[], ?_, Or.inl rfl⟩
          simp only [EngineOption.apply, List.append_nil]
          split_ifs <;> rfl
      refine ⟨added ++ mws, ?_, ?_⟩
      · rw [List.foldl_cons, hmws, hadded, List.append_assoc]
      · intro mw hmw
        obtain hmw | hmw := List.mem_append.mp hmw
        · obtain rfl | rfl := ho
          · cases hmw
          · exact ⟨added, List.mem_cons_self, hmw⟩
        · obtain ⟨l, hl, hmw⟩ := hmem mw hmw
          exact ⟨l, List.mem_cons_of_mem _ hl, hmw⟩
  exact hfold opts _

lemma forall_new_middlewares {P : Middleware → Prop} {q : Queue} (hbuiltin : ∀ mw ∈ builtinMiddlewares q, P mw)
    {opts : List EngineOption} (hadded : ∀ mws, .withMiddlewares mws ∈ opts → ∀ mw ∈ mws, P mw)
    (cfg : Option Config) : ∀ mw ∈ (Engine.new q cfg opts).middlewares, P mw := by
  obtain ⟨added, heq, hmem⟩ := new_middlewares q cfg opts
  intro mw h
  rw [heq] at h
  obtain h | h := List.mem_append.mp h
  · exact hbuiltin mw h
  · obtain ⟨mws, hmws, hin⟩ := hmem mw h
    exact hadded mws hmws mw hin

end Engine

/-! ### What an invocation has counted and called -/

namespace Event

def isPublish : Event → Bool
  | publish .. => true
  | _ => false

def isErrorHandler : Event → Bool
  | errorHandler .. => true
  | _ => false

end Event

namespace Invocation

def Phase.due : Phase → Stats
  | entered => {}
  | counted => { inFlight := 1 }
  | received | chain _ | succeeding | failing _ => { inFlight := 1, totalReceived := 1 }
  | routing _ | publishing _ | notifying _ | acking _ =>
    { inFlight := 1, totalReceived := 1, totalFailed := 1 }
  | leaving none => { inFlight := 1, totalReceived := 1, totalSuccess := 1 }
  | leaving (some _) => { inFlight := 1, totalReceived := 1, totalFailed := 1 }
  | returned none => { totalReceived := 1, totalSuccess := 1 }
  | returned (some _) => { totalReceived := 1, totalFailed := 1 }

structure Calls where
  published : Nat := 0
  notified : Nat := 0
  acked : Nat := 0
  deadLettered : Bool := false
  deriving DecidableEq

def calls (t : Invocation) : Calls where
  published := t.own.countP Event.isPublish
  notified := t.own.countP Event.isErrorHandler
  acked := t.acks
  deadLettered := t.own.any Event.deadLettered

def Calls.log (c : Calls) (evs : List Event) : Calls where
  published := c.published + evs.countP Event.isPublish
  notified := c.notified + evs.countP Event.isErrorHandler
  acked := c.acked
  deadLettered := c.deadLettered || evs.any Event.deadLettered

lemma calls_append (t : Invocation) (phase : Phase) (w : World) (evs : List Event) :
    { t with phase := phase, world := w, own := t.own ++ evs }.calls = t.calls.log evs := by
  unfold calls Calls.log
  rw [List.countP_append, List.countP_append, List.any_append]

lemma Calls.log_acks (c : Calls) {evs : List Event} (h : ∀ ev ∈ evs, ev.isAck = true) : c.log evs = c := by
  have hnone : ∀ f : Event → Bool, (∀ ev : Event, ev.isAck = true → f ev = false) →
      evs.countP f = 0 ∧ evs.any f = false := by
    intro f hf
    constructor
    · exact List.countP_eq_zero.mpr fun ev hev => by simp [hf ev (h ev hev)]
    · exact List.any_eq_false.mpr fun ev hev => by simp [hf ev (h ev hev)]
  have hack : ∀ ev : Event, ev.isAck = true →
      ev.isPublish = false ∧ ev.isErrorHandler = false ∧ ev.deadLettered = false := by
    intro ev hev
    cases ev with
    | ack fn ctxDone err => exact ⟨rfl, rfl, rfl⟩
    | _ => cases hev
  unfold Calls.log
  rw [(hnone _ fun ev hev => (hack ev hev).1).1, (hnone _ fun ev hev => (hack ev hev).2.1).1,
    (hnone _ fun ev hev => (hack ev hev).2.2).2, Bool.or_false]
  rfl

/-- The calls of a dead letter that no producer has refused. -/
def Calls.accepted (e : Engine) (acked : Nat) : Calls :=
  ⟨e.dlqProducer.isSome.toNat, e.errorHandler.toNat, acked, e.dlqProducer.isSome⟩

def Calls.refused (acked : Nat) : Calls := ⟨1, 0, acked, false⟩

namespace Failure

def routed : Failure → Bool
  | absent => false
  | empty => false
  | _ => true

def Ends (e : Engine) : Failure → Calls → Prop
  | absent, c => c = {}
  | empty, c => c = { acked := 1 }
  | rejected _, c => c = .accepted e 1 ∨ e.dlqProducer.isSome = true ∧ c = .refused 1
  | exhausted _, c => c = .accepted e 1 ∨ e.dlqProducer.isSome = true ∧ c = .refused 0

lemma ends_of_accepted {e : Engine} {f : Failure} (h : f.routed = true) : f.Ends e (.accepted e 1) := by
  cases f with
  | absent => cases h
  | empty => cases h
  | rejected err => exact Or.inl rfl
  | exhausted err => exact Or.inl rfl

end Failure

def Concludes (codec : Codec) (e : Engine) (msg : Option Message) (r : Option GoError) (c : Calls) : Prop :=
  r = none ∧ c = {} ∨ ∃ err, ∃ f : Failure, r = some err ∧ f.Arises codec msg ∧ f.Ends e c

def Phase.Allows (codec : Codec) (e : Engine) (msg : Option Message) : Phase → Calls → Prop
  | entered, c | counted, c | received, c | succeeding, c => c = {}
  | chain email, c => c = {} ∧ ∃ m, msg = some m ∧ codec.ValidPayload m.payload email
  | failing f, c => c = {} ∧ f.Arises codec msg
  | routing f, c | publishing f, c => c = {} ∧ f.Arises codec msg ∧ f.routed = true
  | notifying f, c =>
    c = { Calls.accepted e 0 with notified := 0 } ∧ f.Arises codec msg ∧ f.routed = true
  | acking f, c => f.Arises codec msg ∧ f.Ends e { c with acked := c.acked + 1 }
  | leaving r, c | returned r, c => Concludes codec e msg r c

/-! ### One step of an invocation -/

variable {codec : Codec} {e : Engine} {t t' : Invocation}

structure Kept (codec : Codec) (e : Engine) (t : Invocation) : Prop where
  counters : SameCounters t.world.stats t.phase.due
  calls : t.phase.Allows codec e t.input.msg t.calls

lemma kept_start (codec : Codec) (e : Engine) (i : Input) : Kept codec e (start i) where
  counters := ⟨rfl, rfl, rfl, rfl⟩
  calls := rfl

lemma due_afterFailed (f : Failure) :
    (afterFailed f).due = { inFlight := 1, totalReceived := 1, totalFailed := 1 } := by
  cases f <;> rfl

lemma due_afterPublish (f : Failure) (r : Option GoError) : (afterPublish f r).due = (Phase.publishing f).due := by
  cases r with
  | none => rfl
  | some dlqErr => cases f <;> rfl

lemma afterFailed_allows {f : Failure} {msg : Option Message} (h : f.Arises codec msg) :
    (afterFailed f).Allows codec e msg {} := by
  cases f with
  | absent => exact Or.inr ⟨_, .absent, rfl, h, rfl⟩
  | empty => exact ⟨h, rfl⟩
  | rejected err => exact ⟨rfl, h, rfl⟩
  | exhausted err => exact ⟨rfl, h, rfl⟩

lemma afterRefused_allows {f : Failure} {msg : Option Message} (h : f.Arises codec msg) (hrouted : f.routed = true)
    (hd : e.dlqProducer.isSome = true) (dlqErr : GoError) :
    (afterRefused dlqErr f).Allows codec e msg (.refused 0) := by
  cases f with
  | absent => cases hrouted
  | empty => cases hrouted
  | rejected err => exact ⟨h, Or.inr ⟨hd, rfl⟩⟩
  | exhausted err => exact Or.inr ⟨_, .exhausted err, rfl, h, Or.inr ⟨hd, rfl⟩⟩

theorem step_kept (hmw : ∀ mw ∈ e.middlewares, mw.KeepsCounters) (ht : Kept codec e t)
    (h : Step codec e t t.phase t') : Kept codec e t' := by
  obtain ⟨hcounters, hcalls⟩ := ht
  generalize t.phase = p at h hcounters hcalls
  obtain ⟨hflight, hreceived, hsuccess, hfailed⟩ := hcounters
  cases h with
  | entered => exact ⟨⟨congrArg (· + 1) hflight, hreceived, hsuccess, hfailed⟩, hcalls⟩
  | counted => exact ⟨⟨hflight, congrArg (· + 1) hreceived, hsuccess, hfailed⟩, hcalls⟩
  | refused harises => exact ⟨⟨hflight, hreceived, hsuccess, hfailed⟩, hcalls, harises⟩
  | decoded hm hvalid => exact ⟨⟨hflight, hreceived, hsuccess, hfailed⟩, hcalls, _, hm, hvalid⟩
  | @chain email w r hrun =>
    obtain ⟨hnone, m, hm, hvalid⟩ := hcalls
    have hkeep := Engine.buildChain_induction hmw e.keepsCounters_sendWithRetry email t.input.env t.world
    rw [hrun] at hkeep
    have hdue : SameCounters w.stats (Phase.chain email).due :=
      hkeep.trans ⟨hflight, hreceived, hsuccess, hfailed⟩
    cases r with
    | none => exact ⟨hdue, hnone⟩
    | some err => exact ⟨hdue, hnone, m, email, hm, hvalid⟩
  | succeeding =>
    exact ⟨⟨hflight, hreceived, congrArg (· + 1) hsuccess, hfailed⟩, Or.inl ⟨rfl, hcalls⟩⟩
  | failing f =>
    obtain ⟨hnone, harises⟩ := hcalls
    constructor
    · change SameCounters _ (afterFailed f).due
      rw [due_afterFailed]
      exact ⟨hflight, hreceived, hsuccess, congrArg (· + 1) hfailed⟩
    · change (afterFailed f).Allows codec e t.input.msg t.calls
      rw [hnone]
      exact afterFailed_allows harises
  | routing f => exact ⟨⟨hflight, hreceived, hsuccess, hfailed⟩, hcalls⟩
  | unpublished f hd =>
    obtain ⟨hnone, hfailure⟩ := hcalls
    refine ⟨⟨hflight, hreceived, hsuccess, hfailed⟩, ?_, hfailure⟩
    unfold Calls.accepted
    rw [hd]
    exact hnone
  | published f r hd hr =>
    obtain ⟨hnone, harises, hrouted⟩ := hcalls
    constructor
    · change SameCounters _ (afterPublish f r).due
      rw [due_afterPublish]
      exact ⟨hflight, hreceived, hsuccess, hfailed⟩
    · change (afterPublish f r).Allows codec e t.input.msg (t.calling _ _).calls
      rw [calling, calls_append, hnone]
      have hsome : e.dlqProducer.isSome = true := by rw [hd]; rfl
      cases r with
      | none =>
        refine ⟨?_, harises, hrouted⟩
        unfold Calls.accepted
        rw [hsome]
        rfl
      | some dlqErr => exact afterRefused_allows harises hrouted hsome dlqErr
  | unheard f he =>
    obtain ⟨hpublished, harises, hrouted⟩ := hcalls
    have hends := Failure.ends_of_accepted (e := e) hrouted
    refine ⟨⟨hflight, hreceived, hsuccess, hfailed⟩, harises, ?_⟩
    change f.Ends e { t.calls with acked := t.calls.acked + 1 }
    unfold Calls.accepted at hends hpublished
    rw [he] at hends
    rw [hpublished]
    exact hends
  | notified f he =>
    obtain ⟨hpublished, harises, hrouted⟩ := hcalls
    have hends := Failure.ends_of_accepted (e := e) hrouted
    refine ⟨⟨hflight, hreceived, hsuccess, hfailed⟩, harises, ?_⟩
    have hquiet : [Event.errorHandler f.err none].any Event.deadLettered = false := rfl
    unfold Calls.accepted at hends hpublished
    rw [he] at hends
    rw [calling, calls_append, hpublished, Calls.log, hquiet, Bool.or_false]
    exact hends
  | @acking f err w evs _ hstats _ hacks =>
    obtain ⟨harises, hends⟩ := hcalls
    refine ⟨?_, Or.inr ⟨_, f, rfl, harises, ?_⟩⟩
    · change SameCounters w.stats _
      rw [hstats]
      exact ⟨hflight, hreceived, hsuccess, hfailed⟩
    · have hcalls := calls_append { t with acks := t.acks + 1 } (.leaving (some f.err)) w evs
      rw [Calls.log_acks _ hacks] at hcalls
      rw [hcalls]
      exact hends
  | leaving r =>
    cases r <;> exact ⟨⟨congrArg (· - 1) hflight, hreceived, hsuccess, hfailed⟩, hcalls⟩

/-! ### Whole runs -/

structure Accounted (codec : Codec) (e : Engine) (t : Invocation) (r : Option GoError) : Prop where
  returned : ∀ m, t.input.msg = some m →
    e.processMessage codec t.input.env { msg := m } = (.ok r, t.world)
  counted : r = none ∧ t.world.stats.totalSuccess = 1 ∧ t.world.stats.totalFailed = 0 ∨
    r ≠ none ∧ t.world.stats.totalSuccess = 0 ∧ t.world.stats.totalFailed = 1
  published : ∀ m, t.input.msg = some m → m.payload ≠ [] → r ≠ none →
    t.own.countP Event.isPublish ≤ 1
  notified : ∀ m, t.input.msg = some m → m.payload ≠ [] → r ≠ none →
    t.own.countP Event.isErrorHandler =
      if e.errorHandler = true ∧ (e.dlqProducer = none ∨ t.own.any Event.deadLettered = true) then 1
      else 0
  acked : ∀ m email, t.input.msg = some m → codec.ValidPayload m.payload email → t.acks ≠ 0 →
    r ≠ none ∧ (e.dlqProducer = none ∨ t.own.any Event.deadLettered = true)

lemma Failure.ends_cases {f : Failure} {c : Calls} (h : f.Ends e c) (hrouted : f.routed = true) :
    c = .accepted e 1 ∨ e.dlqProducer.isSome = true ∧ ∃ n, c = .refused n ∧
      (n ≠ 0 → ∃ err, f = .rejected err) := by
  cases f with
  | absent => cases hrouted
  | empty => cases hrouted
  | rejected err =>
    obtain h | ⟨hd, h⟩ := h
    · exact Or.inl h
    · exact Or.inr ⟨hd, 1, h, fun _ => ⟨err, rfl⟩⟩
  | exhausted err =>
    obtain h | ⟨hd, h⟩ := h
    · exact Or.inl h
    · exact Or.inr ⟨hd, 0, h, fun hn => absurd rfl hn⟩

lemma Failure.Arises.routed {f : Failure} {m : Message} (h : f.Arises codec (some m))
    (hpayload : m.payload ≠ []) : f.routed = true := by
  cases f with
  | absent => cases h
  | empty =>
    obtain ⟨m', hm, hempty⟩ := h
    cases hm
    exact absurd hempty hpayload
  | rejected err => rfl
  | exhausted err => rfl

lemma Phase.exists_of_finished {p : Phase} (h : p.finished = true) : ∃ r, p = .returned r := by
  cases p with
  | returned r => exact ⟨r, rfl⟩
  | _ => cases h

lemma accounted {r : Option GoError} (ht : Kept codec e t) (hrefines : Refines codec e t)
    (hphase : t.phase = .returned r) : Accounted codec e t r := by
  have hcounters := ht.counters
  have hcalls := ht.calls
  have hresume := hrefines.resume
  rw [hphase] at hcounters hcalls hresume
  have hroute : ∀ m, t.input.msg = some m → m.payload ≠ [] → r ≠ none →
      ∃ f : Failure, f.Arises codec (some m) ∧ (t.calls = .accepted e 1 ∨
        e.dlqProducer.isSome = true ∧ ∃ n, t.calls = .refused n ∧
          (n ≠ 0 → ∃ err, f = .rejected err)) := by
    intro m hm hpayload hr
    obtain ⟨hnone, -⟩ | ⟨err, f, -, harises, hends⟩ := hcalls
    · exact absurd hnone hr
    · rw [hm] at harises
      exact ⟨f, harises, Failure.ends_cases hends (harises.routed hpayload)⟩
  refine ⟨fun m hm => (hresume m hm).symm, ?_, ?_, ?_, ?_⟩
  · cases r with
    | none => exact Or.inl ⟨rfl, hcounters.totalSuccess, hcounters.totalFailed⟩
    | some err =>
      exact Or.inr ⟨Option.some_ne_none err, hcounters.totalSuccess, hcounters.totalFailed⟩
  · intro m hm hpayload hr
    change t.calls.published ≤ 1
    obtain ⟨f, -, h | ⟨-, n, h, -⟩⟩ := hroute m hm hpayload hr
    · rw [h]
      exact Bool.toNat_le _
    · rw [h]
      exact le_rfl
  · intro m hm hpayload hr
    change t.calls.notified = if e.errorHandler = true ∧ (e.dlqProducer = none ∨
      t.calls.deadLettered = true) then 1 else 0
    obtain ⟨f, -, h | ⟨hd, n, h, -⟩⟩ := hroute m hm hpayload hr
    · rw [h]
      unfold Calls.accepted
      cases e.dlqProducer <;> cases e.errorHandler <;> rfl
    · rw [h, if_neg]
      · rfl
      · rintro ⟨-, hnone | hdead⟩
        · rw [hnone] at hd
          cases hd
        · cases hdead
  · intro m email hm hvalid hacks
    change t.calls.acked ≠ 0 at hacks
    change r ≠ none ∧ (e.dlqProducer = none ∨ t.calls.deadLettered = true)
    have hr : r ≠ none := by
      obtain ⟨-, hzero⟩ | ⟨err, f, hr, -⟩ := hcalls
      · rw [hzero] at hacks
        exact absurd rfl hacks
      · rw [hr]
        exact Option.some_ne_none err
    refine ⟨hr, ?_⟩
    obtain ⟨f, harises, h | ⟨-, n, h, hrejected⟩⟩ := hroute m hm hvalid.1 hr
    · rw [h]
      unfold Calls.accepted
      cases e.dlqProducer with
      | none => exact Or.inl rfl
      | some q => exact Or.inr rfl
    · rw [h] at hacks
      obtain ⟨err, rfl⟩ := hrejected hacks
      obtain ⟨m', hm', -, hinvalid⟩ := harises
      cases hm'
      exact absurd hvalid (hinvalid email)

lemma shared_eq_sum (counter : Stats → Int)
    (hshift : ∀ s old new : Stats, counter (s.shift old new) = counter s + (counter new - counter old))
    (hzero : counter {} = 0) (hrun : (program codec e).Runs {} ms c) :
    counter c.shared = (c.threads.map fun t => counter t.world.stats).sum := by
  have hpreserves : (program codec e).Preserves fun s ls =>
      counter s = (ls.map fun t => counter t.world.stats).sum := by
    refine Program.preserves_sum ?_ ?_ ?_
    · intro s i s' t h
      cases h
      change counter s = counter s + counter {}
      rw [hzero, add_zero]
    · intro s t a s' t' h
      obtain ⟨u, -, hu⟩ := Option.map_eq_some_iff.mp h
      cases hu
      exact hshift _ _ _
    · intro s t k s' t' k' h
      cases h
  have h := hpreserves.run (c := (⟨{}, []⟩ : System Stats Invocation)) hzero hrun
  simpa using h

lemma run_forall {P : Invocation → Prop} (hstart : ∀ i, P (start i))
    (hstep : ∀ t t' : Invocation, P t → Step codec e t t.phase t' → P t') (hrun : (program codec e).Runs {} ms c) :
    ∀ t ∈ c.threads, P t := by
  have hpreserves : (program codec e).Preserves fun _ ls => ∀ t ∈ ls, P t := by
    refine Program.preserves_forall ?_ ?_ ?_
    · intro s i s' t h
      cases h
      exact hstart i
    · intro s t a s' t' ht h
      obtain ⟨u, hstep', hu⟩ := Option.map_eq_some_iff.mp h
      cases hu
      exact hstep t _ ht (step_spec hstep')
    · intro s t k s' t' k' _ _ h
      cases h
  exact hpreserves.run (c := (⟨{}, []⟩ : System Stats Invocation)) (by simp) hrun

lemma run_spec (hmw : ∀ mw ∈ e.middlewares, mw.KeepsCounters) (hrun : (program codec e).Runs {} ms c) :
    ∀ t ∈ c.threads, Kept codec e t ∧ Refines codec e t :=
  run_forall (fun i => ⟨kept_start codec e i, refines_start codec e i⟩)
    (fun _ _ ht h => ⟨step_kept hmw ht.1 h, step_refines ht.2 h⟩) hrun

lemma balanced
    (hrun : (program codec e).Runs {} ms c) (hkept : ∀ t ∈ c.threads, Kept codec e t)
    (hdone : ∀ t ∈ c.threads, t.phase.finished = true) :
    c.shared.totalReceived = c.shared.totalSuccess + c.shared.totalFailed ∧ c.shared.inFlight = 0 := by
  have hreturned : ∀ t ∈ c.threads, t.world.stats.inFlight = 0 ∧
      t.world.stats.totalReceived = t.world.stats.totalSuccess + t.world.stats.totalFailed := by
    intro t ht
    have hcounters := (hkept t ht).counters
    obtain ⟨r, hphase⟩ := Phase.exists_of_finished (hdone t ht)
    rw [hphase] at hcounters
    rw [hcounters.inFlight, hcounters.totalReceived, hcounters.totalSuccess, hcounters.totalFailed]
    cases r <;> exact ⟨rfl, rfl⟩
  rw [shared_eq_sum Stats.totalReceived (fun _ _ _ => rfl) rfl hrun,
    shared_eq_sum Stats.totalSuccess (fun _ _ _ => rfl) rfl hrun,
    shared_eq_sum Stats.totalFailed (fun _ _ _ => rfl) rfl hrun,
    shared_eq_sum Stats.inFlight (fun _ _ _ => rfl) rfl hrun, ← List.sum_map_add]
  constructor
  · rw [List.map_congr_left fun t ht => (hreturned t ht).2]
  · rw [List.map_congr_left fun t ht => (hreturned t ht).1]
    exact List.sum_map_zero

end Invocation

namespace Proofs

open Invocation

/-- The counters balance whenever no invocation is in progress, each counter is the sum of what the
invocations have added, and every invocation that has returned is accounted for. -/
theorem invocations_accounted (codec : Codec) (q : Queue) (cfg : Option Config)
    (opts : List EngineOption)
    (hmw : ∀ mws, .withMiddlewares mws ∈ opts → ∀ mw ∈ mws, mw.KeepsCounters)
    {ms : List (Move Invocation.Input Unit)} {c : System Stats Invocation}
    (hrun : (program codec (Engine.new q cfg opts)).Runs {} ms c) :
    ((∀ t ∈ c.threads, t.phase.finished = true) →
      c.shared.totalReceived = c.shared.totalSuccess + c.shared.totalFailed ∧ c.shared.inFlight = 0) ∧
    c.shared.totalSuccess = (c.threads.map fun t => t.world.stats.totalSuccess).sum ∧
    c.shared.totalFailed = (c.threads.map fun t => t.world.stats.totalFailed).sum ∧
    ∀ t ∈ c.threads, ∀ r, t.phase = .returned r → Accounted codec (Engine.new q cfg opts) t r := by
  have hkeep : ∀ mw ∈ (Engine.new q cfg opts).middlewares, mw.KeepsCounters :=
    Engine.forall_new_middlewares (fun _ => Engine.keepsCounters_builtin) hmw cfg
  have hspec := run_spec hkeep hrun
  refine ⟨balanced hrun fun t ht => (hspec t ht).1, shared_eq_sum _ (fun _ _ _ => rfl) rfl hrun,
    shared_eq_sum _ (fun _ _ _ => rfl) rfl hrun, ?_⟩
  intro t ht r hphase
  exact accounted (hspec t ht).1 (hspec t ht).2 hphase

def watchedOptions : List EngineOption :=
  [.withDLQ ⟨.memory, {}⟩ "dead", .withMaxRetries 1, .withErrorHandler,
    .withMiddlewares [loggingMiddleware]]

def inputOf (send : CallResult) : Invocation.Input where
  env := { send := fun _ => send }
  msg := some { payload := mailJSON }
  publish_returns := ⟨none, rfl⟩
  handler_returns := rfl

/-- A delivery and a failure that overlap, step by step. -/
def overlapping : List (Move Invocation.Input Unit) :=
  [.call (inputOf (.returns none)), .call (inputOf (.returns (some ⟨"smtp: connection refused"⟩)))] ++
    (List.replicate 6 [.step 0 (), .step 1 ()]).flatten ++ List.replicate 4 (.step 1 ())

lemma forall_watchedOptions {P : Middleware → Prop} (h : ∀ mw ∈ builtinMiddlewares ⟨.memory, {}⟩, P mw) :
    ∀ mws, .withMiddlewares mws ∈ watchedOptions → ∀ mw ∈ mws, P mw := by
  intro mws hmws mw hmw
  simp only [watchedOptions, List.mem_cons, List.not_mem_nil, reduceCtorEq, false_or, or_false,
    EngineOption.withMiddlewares.injEq] at hmws
  rw [hmws, List.mem_singleton] at hmw
  rw [hmw]
  exact h _ (by simp [builtinMiddlewares])

theorem invocations_accounted_overlapping :
    ∃ c, (program plainCodec (Engine.new ⟨.memory, {}⟩ none watchedOptions)).Runs {} overlapping c ∧
      c.threads.length = 2 ∧ (∀ t ∈ c.threads, t.phase.finished = true) ∧
      c.shared.totalReceived = c.shared.totalSuccess + c.shared.totalFailed ∧ c.shared.inFlight = 0 := by
  have hlast : (run (program plainCodec (Engine.new ⟨.memory, {}⟩ none watchedOptions)).next { shared := {} }
      overlapping).map (fun c => (c.threads.length, c.threads.all fun t => t.phase.finished)) = some (2, true) := by
    decide +kernel
  obtain ⟨c, hrun, hc⟩ := Option.map_eq_some_iff.mp hlast
  obtain ⟨hlen, hdone⟩ := Prod.mk.inj hc
  have hthreads : ∀ t ∈ c.threads, t.phase.finished = true := by
    simpa using hdone
  exact ⟨c, hrun, hlen, hthreads,
    (invocations_accounted plainCodec ⟨.memory, {}⟩ none watchedOptions
      (forall_watchedOptions fun _ => Engine.keepsCounters_builtin) hrun).1 hthreads⟩

end Proofs

end MailBaby
