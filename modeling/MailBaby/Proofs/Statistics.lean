import MailBaby.Proofs.Accounting

/-!
# What the counters of retries and dead letters stand for

The engine counts a retry when a `Send` has failed, whether or not another one follows, and a dead letter
before it is published.
-/

namespace MailBaby

open Lib

namespace Event

def isSend : Event → Bool
  | send .. => true
  | _ => false

def sendFailed : Event → Bool
  | send _ (.returns (some _)) => true
  | _ => false

lemma isSend_of_sendFailed {ev : Event} (h : ev.sendFailed = true) : ev.isSend = true := by
  cases ev with
  | send email result => rfl
  | _ => cases h

lemma isPublish_of_deadLettered {ev : Event} (h : ev.deadLettered = true) : ev.isPublish = true := by
  cases ev with
  | publish letter result => rfl
  | _ => cases h

def isAside (ev : Event) : Bool := !ev.isSend && !ev.isPublish

end Event

structure CallCounts where
  sends : Nat
  failed : Nat
  publishes : Nat

def tally (evs : List Event) : CallCounts where
  sends := evs.countP Event.isSend
  failed := evs.countP Event.sendFailed
  publishes := evs.countP Event.isPublish

@[simp] lemma sends_append (evs evs' : List Event) :
    (tally (evs ++ evs')).sends = (tally evs).sends + (tally evs').sends :=
  List.countP_append

@[simp] lemma failed_append (evs evs' : List Event) :
    (tally (evs ++ evs')).failed = (tally evs).failed + (tally evs').failed :=
  List.countP_append

@[simp] lemma publishes_append (evs evs' : List Event) :
    (tally (evs ++ evs')).publishes = (tally evs).publishes + (tally evs').publishes :=
  List.countP_append

lemma countP_eq_countP_iff {f g : Event → Bool} {evs : List Event} (h : ∀ ev, g ev = true → f ev = true) :
    evs.countP f = evs.countP g ↔ ∀ ev ∈ evs, f ev = true → g ev = true := by
  induction evs with
  | nil => simp
  | cons ev evs ih =>
    have hle : evs.countP g ≤ evs.countP f := List.countP_mono_left fun ev _ => h ev
    rw [List.countP_cons, List.countP_cons, List.forall_mem_cons, ← ih]
    cases hg : g ev with
    | true =>
      rw [h ev hg]
      simp
    | false =>
      cases hf : f ev with
      | false => simp
      | true =>
        simp only [if_true, Bool.false_eq_true, if_false, imp_false, not_true_eq_false, false_and, iff_false]
        omega

lemma tally_of_asides {evs : List Event} (h : evs.all Event.isAside = true) : tally evs = ⟨0, 0, 0⟩ := by
  have haside : ∀ ev ∈ evs, ev.isSend = false ∧ ev.isPublish = false := by
    intro ev hev
    have hev := List.all_eq_true.mp h ev hev
    simpa [Event.isAside] using hev
  have hsends : evs.countP Event.isSend = 0 :=
    List.countP_eq_zero.mpr fun ev hev => by simp [(haside ev hev).1]
  have hpublishes : evs.countP Event.isPublish = 0 :=
    List.countP_eq_zero.mpr fun ev hev => by simp [(haside ev hev).2]
  have hfailed : evs.countP Event.sendFailed = 0 :=
    Nat.eq_zero_of_le_zero (hsends ▸ List.countP_mono_left fun ev _ => Event.isSend_of_sendFailed)
  rw [tally, hsends, hfailed, hpublishes]

lemma all_isAside_of_waits {waits : List Event} (h : waits.all Event.isWait = true) :
    waits.all Event.isAside = true := by
  refine List.all_eq_true.mpr fun ev hev => ?_
  have hwait := List.all_eq_true.mp h ev hev
  cases ev with
  | ctxErr err => rfl
  | sleep duration elapsed => rfl
  | _ => cases hwait

lemma Engine.Tries.tally {env : Env} {interval : Duration} {email : Email} {done : Bool} {i n k : Nat}
    {last : Option GoError} {evs : List Event} {result : Except String (Option GoError)}
    (h : Tries env interval email done i n last evs result k) :
    (tally evs).failed = k ∧ (tally evs).sends ≤ k + 1 ∧ (tally evs).publishes = 0 := by
  have hwaits : ∀ {waits : List Event}, waits.all Event.isWait = true → MailBaby.tally waits = ⟨0, 0, 0⟩ :=
    fun hwaits => tally_of_asides (all_isAside_of_waits hwaits)
  induction h with
  | exhausted => exact ⟨rfl, Nat.zero_le _, rfl⟩
  | stopped h _ | undrawn h _ =>
    rw [hwaits h]
    exact ⟨rfl, Nat.zero_le _, rfl⟩
  | delivered h _ | panicked h _ =>
    rw [failed_append, sends_append, publishes_append, hwaits h]
    exact ⟨rfl, le_rfl, rfl⟩
  | @failed i n k last waits evs err r h _ _ ih =>
    obtain ⟨hfailed, hsends, hpublishes⟩ := ih
    have hcons : evs.cons (.send email (.returns (some err))) = [.send email (.returns (some err))] ++ evs := rfl
    rw [hcons, failed_append, sends_append, publishes_append, failed_append, sends_append, publishes_append,
      hwaits h, hfailed, hpublishes]
    refine ⟨?_, ?_, rfl⟩
    · change 0 + (1 + k) = k + 1
      omega
    · change 0 + (1 + (MailBaby.tally evs).sends) ≤ k + 1 + 1
      omega

/-! ### The chain -/

/-- `w'` is `w` after calls of which at most one `Send` did not fail, with every failure counted as a retry and
no dead letter. -/
def Tallies (w w' : World) : Prop :=
  ∃ evs, w'.events = w.events ++ evs ∧ (tally evs).publishes = 0 ∧
    (tally evs).sends ≤ (tally evs).failed + 1 ∧
    w'.stats.totalRetried = w.stats.totalRetried + (tally evs).failed ∧
    w'.stats.totalDeadLetter = w.stats.totalDeadLetter

/-- A middleware that calls what it wraps at most once, and neither sends nor publishes nor counts by itself. -/
def Middleware.KeepsTally (mw : Middleware) : Prop :=
  ∀ next : ProcessFunc, (∀ email env w, Tallies w (next email env w).2) →
    ∀ email env w, Tallies w (mw next email env w).2

namespace Engine

lemma tallies_sendWithRetry (e : Engine) (email : Email) (env : Env) (w : World) :
    Tallies w (e.sendWithRetry email env w).2 := by
  obtain ⟨r, w', evs, k, hrun, htries, hleaves⟩ :=
    attempts_tries e email env (env.done w.clock) (e.budget w.msg) 0 none w fun _ => rfl
  have hsend : e.sendWithRetry email env w = (r, w') := hrun
  obtain ⟨hfailed, hsends, hpublishes⟩ := htries.tally
  rw [hsend]
  refine ⟨evs, hleaves.events, hpublishes, hfailed.symm ▸ hsends, ?_, ?_⟩
  · rw [hleaves.stats, hfailed]
  · rw [hleaves.stats]

lemma keepsTally_builtin {q : Queue} {mw : Middleware} (h : mw ∈ builtinMiddlewares q) : mw.KeepsTally := by
  intro next hnext email env w
  obtain ⟨ms, ms', hw⟩ := builtin_world h next email env w
  rw [hw]
  exact hnext email env { w with metrics := ms }

end Engine

/-! ### Invocations -/

namespace Invocation

variable {codec : Codec} {e : Engine} {t t' : Invocation} {p : Phase}

def Phase.isPublishing : Phase → Bool
  | publishing _ => true
  | _ => false

def Phase.silent : Phase → Bool
  | entered => true
  | counted => true
  | received => true
  | chain _ => true
  | _ => false

/-- The counters of an invocation against its calls. -/
structure Tallied (t : Invocation) : Prop where
  silent : t.phase.silent = true → t.world.events = []
  retried : t.world.stats.totalRetried = (tally t.world.events).failed
  sends : (tally t.world.events).sends ≤ (tally t.world.events).failed + 1
  deadLetters : t.world.stats.totalDeadLetter =
    (tally t.world.events).publishes + t.phase.isPublishing.toNat

lemma tallied_start (i : Input) : Tallied (start i) := ⟨fun _ => rfl, rfl, Nat.zero_le _, rfl⟩

lemma Tallied.aside (ht : Tallied t) (hp : t.phase = p) (evs : List Event)
    (hevents : t'.world.events = t.world.events ++ evs) (haside : evs.all Event.isAside = true)
    (hretried : t'.world.stats.totalRetried = t.world.stats.totalRetried)
    (hletters : t'.world.stats.totalDeadLetter = t.world.stats.totalDeadLetter)
    (hphase : t'.phase.isPublishing = p.isPublishing)
    (hsilent : t'.phase.silent = true → p.silent = true ∧ evs = []) : Tallied t' where
  silent h := by
    obtain ⟨ht', rfl⟩ := hsilent h
    rw [hevents, ht.silent (hp.symm ▸ ht'), List.append_nil]
  retried := by rw [hretried, ht.retried, hevents, failed_append, tally_of_asides haside, Nat.add_zero]
  sends := by
    rw [hevents, sends_append, failed_append, tally_of_asides haside]
    exact ht.sends
  deadLetters := by
    rw [hletters, ht.deadLetters, hp, hphase, hevents, publishes_append, tally_of_asides haside, Nat.add_zero]

lemma apart_of_settling (h : p.settling = true) : p.silent = false ∧ p.isPublishing = false := by
  cases p <;> first | exact ⟨rfl, rfl⟩ | cases h

lemma Tallied.chain {email : Email} {w : World} {r : Option GoError} (hmw : ∀ mw ∈ e.middlewares, mw.KeepsTally)
    (ht : Tallied t) (hp : t.phase = .chain email)
    (hrun : buildChain e.middlewares e.sendWithRetry email t.input.env t.world = (.ok r, w)) :
    Tallied { t with phase := afterChain r, world := w } := by
  have htallies := Engine.buildChain_induction hmw e.tallies_sendWithRetry email t.input.env t.world
  rw [hrun] at htallies
  obtain ⟨evs, hevents, hpublishes, hsends, hretried, hletters⟩ := htallies
  have hnone : t.world.events = [] := ht.silent (by rw [hp]; rfl)
  have hold := ht.retried
  have holdLetters := ht.deadLetters
  rw [hnone] at hold hevents holdLetters
  rw [hp] at holdLetters
  rw [List.nil_append] at hevents
  obtain ⟨hsilent, hpublishing⟩ := apart_of_settling (settling_afterChain r)
  refine ⟨fun hs => (by cases hsilent.symm.trans hs), ?_, ?_, ?_⟩
  · rw [hretried, hold, hevents]
    exact Int.zero_add _
  · rw [hevents]
    exact hsends
  · rw [hletters, holdLetters, hpublishing, hevents, hpublishes]
    rfl

lemma Tallied.publish {f : Failure} (ht : Tallied t) (hp : t.phase = .publishing f) (letter : Message)
    (r : Option GoError) : Tallied (t.calling (.publish letter (.returns r)) (afterPublish f r)) := by
  have hletters := ht.deadLetters
  rw [hp] at hletters
  obtain ⟨hsilent, hpublishing⟩ := apart_of_settling (settling_afterPublish f r)
  refine ⟨fun hs => (by cases hsilent.symm.trans hs), ?_, ?_, ?_⟩
  · change t.world.stats.totalRetried = ((tally (t.world.events ++ [_])).failed : Int)
    rw [failed_append]
    exact ht.retried
  · change (tally (t.world.events ++ [_])).sends ≤ (tally (t.world.events ++ [_])).failed + 1
    rw [failed_append, sends_append]
    exact ht.sends
  · change t.world.stats.totalDeadLetter = ((tally (t.world.events ++ [_])).publishes : Int) +
      (afterPublish f r).isPublishing.toNat
    rw [hpublishing, publishes_append, hletters]
    rfl

lemma all_isAside_of_acks {evs : List Event} (h : ∀ ev ∈ evs, ev.isAck = true) : evs.all Event.isAside = true := by
  refine List.all_eq_true.mpr fun ev hev => ?_
  have hack := h ev hev
  cases ev with
  | ack fn ctxDone err => rfl
  | _ => cases hack

theorem step_tallied (hmw : ∀ mw ∈ e.middlewares, mw.KeepsTally) (hdlq : e.dlqProducer.isSome = true)
    (ht : Tallied t) (h : Step codec e t t.phase t') : Tallied t' := by
  have hsame : t.world.events = t.world.events ++ [] := (List.append_nil _).symm
  generalize hp : t.phase = p at h
  cases h with
  | entered | counted | succeeding | leaving r | decoded | unheard f =>
    exact ht.aside hp [] hsame rfl rfl rfl rfl fun hs => ⟨hs, rfl⟩
  | refused => exact ht.aside hp [] hsame rfl rfl rfl rfl fun _ => ⟨rfl, rfl⟩
  | chain r hrun => exact ht.chain hmw hp hrun
  | failing f =>
    obtain ⟨hsilent, hpublishing⟩ := apart_of_settling (settling_afterFailed f)
    exact ht.aside hp [] hsame rfl rfl rfl hpublishing fun hs => by cases hsilent.symm.trans hs
  | routing f =>
    have hletters := ht.deadLetters
    rw [hp] at hletters
    refine ⟨fun hs => (by cases hs), ht.retried, ht.sends, ?_⟩
    change t.world.stats.totalDeadLetter + 1 = ((tally t.world.events).publishes : Int) + 1
    rw [hletters]
    rfl
  | unpublished f hd =>
    rw [hd] at hdlq
    cases hdlq
  | published f r => exact ht.publish hp _ r
  | notified f => exact ht.aside hp [.errorHandler f.err none] rfl rfl rfl rfl rfl fun hs => by cases hs
  | acking f _ hstats hevents hacks =>
    exact ht.aside hp _ hevents (all_isAside_of_acks hacks) (congrArg Stats.totalRetried hstats)
      (congrArg Stats.totalDeadLetter hstats) rfl fun hs => by cases hs

lemma run_tallied (hmw : ∀ mw ∈ e.middlewares, mw.KeepsTally) (hdlq : e.dlqProducer.isSome = true)
    {ms : List (Move Input Unit)} {c : System Stats Invocation} (hrun : (program codec e).Runs {} ms c) :
    ∀ t ∈ c.threads, Tallied t :=
  run_forall tallied_start (fun _ _ ht h => step_tallied hmw hdlq ht h) hrun

/-! ### The events that the counters name -/

def repeats (t : Invocation) : Nat := (tally t.world.events).sends - 1

def published (t : Invocation) : Nat := t.world.events.countP Event.deadLettered

def OnlyFailed (t : Invocation) : Prop :=
  (∃ ev ∈ t.world.events, ev.isSend = true) ∧
    ∀ ev ∈ t.world.events, ev.isSend = true → ev.sendFailed = true

def LetterMissing (t : Invocation) : Prop :=
  t.phase.isPublishing = true ∨ ∃ ev ∈ t.world.events, ev.isPublish = true ∧ ev.deadLettered = false

lemma failed_le_sends (evs : List Event) : (tally evs).failed ≤ (tally evs).sends :=
  List.countP_mono_left fun _ _ => Event.isSend_of_sendFailed

lemma onlyFailed_iff : t.OnlyFailed ↔
    0 < (tally t.world.events).sends ∧ (tally t.world.events).sends = (tally t.world.events).failed := by
  have hall : (tally t.world.events).sends = (tally t.world.events).failed ↔
      ∀ ev ∈ t.world.events, ev.isSend = true → ev.sendFailed = true :=
    countP_eq_countP_iff fun _ => Event.isSend_of_sendFailed
  rw [OnlyFailed, ← hall]
  exact and_congr_left' List.countP_pos_iff.symm

lemma Tallied.repeats_le (ht : Tallied t) : (t.repeats : Int) ≤ t.world.stats.totalRetried := by
  have hsends := ht.sends
  rw [ht.retried, repeats]
  omega

lemma Tallied.retried_eq_iff (ht : Tallied t) : t.world.stats.totalRetried = t.repeats ↔ ¬t.OnlyFailed := by
  have hsends := ht.sends
  have hfailed := failed_le_sends t.world.events
  rw [onlyFailed_iff, ht.retried, repeats]
  omega

lemma published_le (t : Invocation) : t.published ≤ (tally t.world.events).publishes :=
  List.countP_mono_left fun _ _ => Event.isPublish_of_deadLettered

lemma letterMissing_iff : t.LetterMissing ↔
    t.phase.isPublishing = true ∨ (tally t.world.events).publishes ≠ t.published := by
  have hall : (tally t.world.events).publishes = t.published ↔
      ∀ ev ∈ t.world.events, ev.isPublish = true → ev.deadLettered = true :=
    countP_eq_countP_iff fun _ => Event.isPublish_of_deadLettered
  rw [LetterMissing, ne_eq, hall]
  push Not
  simp only [Bool.not_eq_true]

lemma Tallied.published_le (ht : Tallied t) : (t.published : Int) ≤ t.world.stats.totalDeadLetter := by
  have hle := t.published_le
  rw [ht.deadLetters]
  omega

lemma Tallied.deadLetters_eq_iff (ht : Tallied t) :
    t.world.stats.totalDeadLetter = t.published ↔ ¬t.LetterMissing := by
  have hle := t.published_le
  rw [letterMissing_iff, ht.deadLetters]
  cases t.phase.isPublishing with
  | false =>
    simp only [Bool.toNat_false, Bool.false_eq_true, false_or, not_not]
    omega
  | true =>
    simp only [Bool.toNat_true, true_or, not_true_eq_false, iff_false]
    omega

end Invocation

end MailBaby

namespace MailBaby.Proofs

open Lib Invocation

/-- In every state of every run the two counters stand for the repeated calls of `Send` and for the published
dead letters exactly if no invocation has only failed to send and no dead letter is missing. -/
theorem statistics_exact_iff (codec : Codec) (q : Queue) (cfg : Option Config) (opts : List EngineOption)
    (hmw : ∀ mws, .withMiddlewares mws ∈ opts → ∀ mw ∈ mws, mw.KeepsTally)
    (hdlq : (Engine.new q cfg opts).dlqProducer.isSome = true)
    {ms : List (Move Invocation.Input Unit)} {c : System Stats Invocation}
    (hrun : (program codec (Engine.new q cfg opts)).Runs {} ms c) :
    (c.shared.totalRetried = (c.threads.map fun t => (t.repeats : Int)).sum ∧
      c.shared.totalDeadLetter = (c.threads.map fun t => (t.published : Int)).sum) ↔
      ∀ t ∈ c.threads, ¬t.OnlyFailed ∧ ¬t.LetterMissing := by
  have htallied := run_tallied
    (Engine.forall_new_middlewares (fun _ => Engine.keepsTally_builtin) hmw cfg) hdlq hrun
  rw [shared_eq_sum Stats.totalRetried (fun _ _ _ => rfl) rfl hrun,
    shared_eq_sum Stats.totalDeadLetter (fun _ _ _ => rfl) rfl hrun,
    sum_map_eq_iff_of_le fun t ht => (htallied t ht).repeats_le,
    sum_map_eq_iff_of_le fun t ht => (htallied t ht).published_le, ← forall₂_and]
  refine forall₂_congr fun t ht => ?_
  rw [(htallied t ht).retried_eq_iff, (htallied t ht).deadLetters_eq_iff]

def unwanted : Invocation.Input where
  env :=
    { send := fun _ => .returns (some ⟨"smtp: connection refused"⟩)
      publish := .returns (some ⟨"queue: failed to publish message"⟩) }
  msg := some { payload := mailJSON }
  publish_returns := ⟨_, rfl⟩
  handler_returns := rfl

def unwantedRun : List (Move Invocation.Input Unit) := .call unwanted :: List.replicate 8 (.step 0 ())

/-- One call of `Send`, which is no repeat, and one publish, which failed, are counted as a retry and a dead
letter. -/
theorem statistics_overcounted :
    ∃ c, (program plainCodec (Engine.new ⟨.memory, {}⟩ none watchedOptions)).Runs {} unwantedRun c ∧
      (c.threads.all fun t => t.phase.finished) = true ∧
      c.shared.totalRetried = 1 ∧ (c.threads.map fun t => (t.repeats : Int)).sum = 0 ∧
      c.shared.totalDeadLetter = 1 ∧ (c.threads.map fun t => (t.published : Int)).sum = 0 := by
  have hlast : (run (program plainCodec (Engine.new ⟨.memory, {}⟩ none watchedOptions)).next { shared := {} }
      unwantedRun).map (fun c => ((c.threads.all fun t => t.phase.finished), c.shared.totalRetried,
        (c.threads.map fun t => (t.repeats : Int)).sum, c.shared.totalDeadLetter,
        (c.threads.map fun t => (t.published : Int)).sum)) = some (true, 1, 0, 1, 0) := by decide +kernel
  obtain ⟨c, hrun, hc⟩ := Option.map_eq_some_iff.mp hlast
  simp only [Prod.mk.injEq] at hc
  exact ⟨c, hrun, hc⟩

theorem statistics_exact_iff_overlapping :
    ∃ c, (program plainCodec (Engine.new ⟨.memory, {}⟩ none watchedOptions)).Runs {} overlapping c ∧
      c.threads.length = 2 ∧
      ((c.shared.totalRetried = (c.threads.map fun t => (t.repeats : Int)).sum ∧
        c.shared.totalDeadLetter = (c.threads.map fun t => (t.published : Int)).sum) ↔
        ∀ t ∈ c.threads, ¬t.OnlyFailed ∧ ¬t.LetterMissing) := by
  have hlast : (run (program plainCodec (Engine.new ⟨.memory, {}⟩ none watchedOptions)).next { shared := {} }
      overlapping).map (fun c => c.threads.length) = some 2 := by decide +kernel
  obtain ⟨c, hrun, hlen⟩ := Option.map_eq_some_iff.mp hlast
  exact ⟨c, hrun, hlen,
    statistics_exact_iff plainCodec ⟨.memory, {}⟩ none watchedOptions
      (forall_watchedOptions fun _ => Engine.keepsTally_builtin) rfl hrun⟩

end MailBaby.Proofs
