import MailBaby.Proofs.Backoff

/-!
# The retry budget

One turn of the retry loop checks the context, waits before a retry and calls `Send`.
-/

namespace MailBaby

open Lib

namespace Event

def isWait : Event → Bool
  | ctxErr _ => true
  | sleep .. => true
  | _ => false

def sendResult : Event → Option (Option GoError)
  | send _ (.returns err) => some err
  | _ => none

end Event

def sendResults (evs : List Event) : List (Option GoError) := evs.filterMap Event.sendResult

lemma sendResults_of_waits {waits : List Event} (h : waits.all Event.isWait = true) : sendResults waits = [] := by
  rw [sendResults, List.filterMap_eq_nil_iff]
  intro ev hev
  have hwait := List.all_eq_true.mp h ev hev
  cases ev with
  | ctxErr err => rfl
  | sleep duration elapsed => rfl
  | _ => cases hwait

lemma sendResults_append (evs evs' : List Event) :
    sendResults (evs ++ evs') = sendResults evs ++ sendResults evs' :=
  List.filterMap_append

lemma World.emit_eq (w : World) (ev : Event) : w.emit ev = { w with events := w.events ++ [ev] } := rfl

namespace Engine

/-! ### One turn -/

inductive Turn
  | stopped (err : GoError)
  | delivered
  | failed (err : GoError)

def Turn.ofSend : Option GoError → Turn
  | none => .delivered
  | some err => .failed err

section Turn

variable (interval : Duration) (i sent : Nat) (email : Email)

def turnSend : Option GoError → Proc Turn
  | some err => pure (.stopped err)
  | none => send sent email >>= fun result => pure (.ofSend result)

def turnPause : Option GoError → Proc Turn
  | some err => pure (.stopped err)
  | none => pause interval i >>= turnSend sent email

def turn : Proc Turn := ctxErr >>= turnPause interval i sent email

lemma turn_of_live {env : Env} {w : World} (h : env.done w.clock = false) :
    turn interval i sent email env w =
      (pause interval i >>= turnSend sent email) env (w.emit (.ctxErr none)) := by
  unfold turn
  rw [Eff.bind_of_ok (ctxErr_apply env w), h]
  rfl

lemma turn_of_send {env : Env} {w : World} {err : GoError} (h : env.done w.clock = false)
    (hsend : env.send sent = .returns (some err)) :
    turn interval 0 sent email env w = (.ok (.failed err),
      (w.emit (.ctxErr none)).emit (.send email (.returns (some err)))) := by
  have hpause : pause interval 0 env (w.emit (.ctxErr none)) = (.ok none, w.emit (.ctxErr none)) := rfl
  rw [turn_of_live interval 0 sent email h, Eff.bind_of_ok hpause]
  exact Eff.bind_of_ok (send_of_returns hsend) _

lemma turn_of_undrawn {k : Nat} {env : Env} {w : World} (h : env.done w.clock = false)
    (hbase : backoff interval k ≤ 1) : turn interval (k + 1) sent email env w =
      (.error "invalid argument to Int63n", { w with events := w.events ++ [.ctxErr none] }) := by
  obtain ⟨d, hpause⟩ := pause_succ interval k env (w.emit (.ctxErr none))
  rw [if_pos hbase] at hpause
  rw [turn_of_live interval (k + 1) sent email h, Eff.bind_of_error hpause]
  rfl

lemma turn_cases (env : Env) (w : World) :
    ∃ waits, waits.all Event.isWait = true ∧
      ((turn interval i sent email env w =
            (.ok (.stopped errCanceled), { w with events := w.events ++ waits }) ∧
          (∃ clock, env.done clock = true) ∧ (i = 0 → env.done w.clock = true)) ∨
        (∃ k, i = k + 1 ∧ backoff interval k ≤ 1 ∧ turn interval i sent email env w =
          (.error "invalid argument to Int63n", { w with events := w.events ++ waits })) ∨
        (∃ err, env.send sent = .returns err ∧ turn interval i sent email env w =
          (.ok (.ofSend err), { w with events := w.events ++ (waits ++ [.send email (.returns err)]) })) ∨
        ∃ v, env.send sent = .panics v ∧ turn interval i sent email env w =
          (.error v, { w with events := w.events ++ (waits ++ [.send email (.panics v)]) })) := by
  by_cases hdone : env.done w.clock = true
  · refine ⟨[.ctxErr (some errCanceled)], rfl, Or.inl ⟨?_, ⟨_, hdone⟩, fun _ => hdone⟩⟩
    unfold turn
    rw [Eff.bind_of_ok (ctxErr_apply env w), if_pos hdone]
    rfl
  have hlive : env.done w.clock = false := by simpa using hdone
  have hstart := turn_of_live interval i sent email hlive
  -- what the turn does once the pause is over
  have hsend : ∀ waits w', waits.all Event.isWait = true → w' = { w with events := w.events ++ waits } →
      pause interval i env (w.emit (.ctxErr none)) = (.ok none, w') →
      (∃ err, env.send sent = .returns err ∧ turn interval i sent email env w =
        (.ok (.ofSend err), { w with events := w.events ++ (waits ++ [.send email (.returns err)]) })) ∨
      ∃ v, env.send sent = .panics v ∧ turn interval i sent email env w =
        (.error v, { w with events := w.events ++ (waits ++ [.send email (.panics v)]) }) := by
    intro waits w' _ hw' hpause
    rw [hstart, Eff.bind_of_ok hpause, hw']
    change (∃ err, _ ∧ (send sent email >>= fun result => pure (Turn.ofSend result)) env _ = _) ∨
      ∃ v, _ ∧ (send sent email >>= fun result => pure (Turn.ofSend result)) env _ = _
    cases hres : env.send sent with
    | returns err =>
      refine Or.inl ⟨err, rfl, ?_⟩
      rw [Eff.bind_of_ok (send_of_returns hres), ← List.append_assoc]
      rfl
    | panics v =>
      refine Or.inr ⟨v, rfl, ?_⟩
      rw [Eff.bind_of_error (send_of_panics hres), ← List.append_assoc]
      rfl
  cases i with
  | zero => exact ⟨[.ctxErr none], rfl, Or.inr (Or.inr (hsend _ _ rfl rfl rfl))⟩
  | succ k =>
    obtain ⟨d, hpause⟩ := pause_succ interval k env (w.emit (.ctxErr none))
    by_cases hbase : backoff interval k ≤ 1
    · exact ⟨[.ctxErr none], rfl,
        Or.inr (Or.inl ⟨k, rfl, hbase, turn_of_undrawn interval sent email hlive hbase⟩)⟩
    · rw [if_neg hbase] at hpause
      dsimp only at hpause
      cases helapsed : !env.done (w.emit (.ctxErr none)).clock || env.timer (k + 1) with
      | false =>
        rw [helapsed] at hpause
        have hdone' : env.done (w.emit (.ctxErr none)).clock = true := by
          rw [Bool.or_eq_false_iff, Bool.not_eq_false'] at helapsed
          exact helapsed.1
        refine ⟨[.ctxErr none, .sleep d false], rfl, Or.inl ⟨?_, ⟨_, hdone'⟩, fun h0 => by cases h0⟩⟩
        rw [hstart, Eff.bind_of_ok hpause, World.emit_eq, World.emit_eq, List.append_assoc]
        rfl
      | true =>
        rw [helapsed] at hpause
        refine ⟨[.ctxErr none, .sleep d true], rfl, Or.inr (Or.inr (hsend _ _ rfl ?_ hpause))⟩
        rw [World.emit_eq, World.emit_eq, List.append_assoc]
        rfl

lemma bind_turn {α : Type} {after : Turn → Proc α} {start paused result : Option GoError → Proc α}
    (hstart : ∀ err, start (some err) = after (.stopped err)) (hpause : start none = pause interval i >>= paused)
    (hpaused : ∀ err, paused (some err) = after (.stopped err)) (hsend : paused none = send sent email >>= result)
    (hresult : ∀ r, result r = after (.ofSend r)) (env : Env) (w : World) :
    (ctxErr >>= start) env w = (turn interval i sent email >>= after) env w := by
  unfold turn
  rw [Eff.bind_assoc]
  refine Eff.bind_congr env w _ fun cancelled w₁ => ?_
  cases cancelled with
  | some err => exact congrFun (congrFun (hstart err) env) w₁
  | none =>
    rw [hpause, turnPause, Eff.bind_assoc]
    refine Eff.bind_congr env w₁ _ fun stopped w₂ => ?_
    cases stopped with
    | some err => exact congrFun (congrFun (hpaused err) env) w₂
    | none =>
      rw [hsend, turnSend, Eff.bind_assoc]
      refine Eff.bind_congr env w₂ _ fun r w₃ => ?_
      exact congrFun (congrFun (hresult r) env) w₃

end Turn

/-! ### Whole runs -/

def countRetried (e : Engine) (w : World) : World :=
  (w.count fun s => { s with totalRetried := s.totalRetried + 1 }).record
    (.queueRetried e.queue.driver.name e.queue.name)

def attemptsAfter (e : Engine) (email : Email) (n i : Nat) : Turn → Proc (Option GoError)
  | .stopped err => pure (some err)
  | .delivered => pure none
  | .failed err => fun env w => attempts e email n (i + 1) (some err) env (e.countRetried w)

lemma attempts_succ (e : Engine) (email : Email) (n i : Nat) (last : Option GoError) (env : Env) (w : World) :
    attempts e email (n + 1) i last env w =
      (turn e.effectiveInterval i i email >>= attemptsAfter e email n i) env w := by
  rw [attempts]
  refine bind_turn e.effectiveInterval i i email (fun _ => rfl) rfl (fun _ => rfl) rfl (fun r => ?_) env w
  cases r <;> rfl

/-- A run of the loop with `n` attempts left, of which the next has index `i`: its last error so far, its
calls, its result and the number of its failed attempts. `done` tells whether the context was done when the
first attempt began. -/
inductive Tries (env : Env) (interval : Duration) (email : Email) (done : Bool) :
    Nat → Nat → Option GoError → List Event → Except String (Option GoError) → Nat → Prop
  | exhausted {i : Nat} {last : Option GoError} : Tries env interval email done i 0 last [] (.ok last) 0
  | stopped {i n : Nat} {last : Option GoError} {waits : List Event} (h : waits.all Event.isWait = true)
      (hfirst : i = 0 → done = true) :
      Tries env interval email done i (n + 1) last waits (.ok (some errCanceled)) 0
  | undrawn {k n : Nat} {last : Option GoError} {waits : List Event} (h : waits.all Event.isWait = true)
      (hbase : backoff interval k ≤ 1) :
      Tries env interval email done (k + 1) (n + 1) last waits (.error "invalid argument to Int63n") 0
  | delivered {i n : Nat} {last : Option GoError} {waits : List Event} (h : waits.all Event.isWait = true)
      (hsend : env.send i = .returns none) :
      Tries env interval email done i (n + 1) last (waits ++ [.send email (.returns none)]) (.ok none) 0
  | panicked {i n : Nat} {last : Option GoError} {waits : List Event} {v : String}
      (h : waits.all Event.isWait = true) (hsend : env.send i = .panics v) :
      Tries env interval email done i (n + 1) last (waits ++ [.send email (.panics v)]) (.error v) 0
  | failed {i n k : Nat} {last : Option GoError} {waits evs : List Event} {err : GoError}
      {r : Except String (Option GoError)} (h : waits.all Event.isWait = true)
      (hsend : env.send i = .returns (some err))
      (hrest : Tries env interval email done (i + 1) n (some err) evs r k) :
      Tries env interval email done i (n + 1) last (waits ++ .send email (.returns (some err)) :: evs) r (k + 1)

structure Leaves (w : World) (evs : List Event) (retried : Nat) (w' : World) : Prop where
  msg : w'.msg = w.msg
  events : w'.events = w.events ++ evs
  stats : w'.stats = { w.stats with totalRetried := w.stats.totalRetried + retried }

lemma leaves_log (w : World) (evs : List Event) : Leaves w evs 0 { w with events := w.events ++ evs } where
  msg := rfl
  events := rfl
  stats := by
    rw [Nat.cast_zero, add_zero]

lemma leaves_countRetried (e : Engine) {w w' : World} {evs evs' : List Event} {k : Nat}
    (h : Leaves (e.countRetried { w with events := w.events ++ evs }) evs' k w') :
    Leaves w (evs ++ evs') (k + 1) w' where
  msg := h.msg
  events := by
    rw [h.events, ← List.append_assoc]
    rfl
  stats := by
    rw [h.stats]
    simp only [countRetried, World.count, World.record, World.recordAll, Nat.cast_add, Nat.cast_one,
      add_assoc, add_comm (1 : Int)]

theorem attempts_tries (e : Engine) (email : Email) (env : Env) (done : Bool) (n i : Nat)
    (last : Option GoError) (w : World) (hdone : i = 0 → env.done w.clock = done) :
    ∃ r w' evs k, attempts e email n i last env w = (r, w') ∧
      Tries env e.effectiveInterval email done i n last evs r k ∧ Leaves w evs k w' := by
  induction n generalizing i last w with
  | zero =>
    refine ⟨_, w, [], 0, rfl, .exhausted, ?_⟩
    have hlog := leaves_log w []
    rwa [List.append_nil] at hlog
  | succ n ih =>
    rw [attempts_succ]
    obtain ⟨waits, hwaits, ⟨hturn, -, hfirst⟩ | ⟨k, rfl, hbase, hturn⟩ | ⟨err, hsend, hturn⟩ | ⟨v, hsend, hturn⟩⟩ :=
      turn_cases e.effectiveInterval i i email env w
    · rw [Eff.bind_of_ok hturn]
      exact ⟨_, _, waits, 0, rfl, .stopped hwaits fun h0 => hdone h0 ▸ hfirst h0, leaves_log w waits⟩
    · rw [Eff.bind_of_error hturn]
      exact ⟨_, _, waits, 0, rfl, .undrawn hwaits hbase, leaves_log w waits⟩
    · rw [Eff.bind_of_ok hturn]
      cases err with
      | none => exact ⟨_, _, _, 0, rfl, .delivered hwaits hsend, leaves_log w _⟩
      | some err =>
        obtain ⟨r, w', evs, k, hrun, htries, hleaves⟩ :=
          ih (i + 1) (some err) (e.countRetried _) fun h => by cases h
        refine ⟨r, w', waits ++ .send email (.returns (some err)) :: evs, k + 1, hrun,
          .failed hwaits hsend htries, ?_⟩
        have hall := leaves_countRetried e hleaves
        rwa [List.append_assoc] at hall
    · rw [Eff.bind_of_error hturn]
      exact ⟨_, _, _, 0, rfl, .panicked hwaits hsend, leaves_log w _⟩

namespace Tries

variable {env : Env} {interval : Duration} {email : Email} {done : Bool} {i n k : Nat} {last r : Option GoError}
  {evs : List Event} {result : Except String (Option GoError)}

lemma results (h : Tries env interval email done i n last evs result k) (hr : result = .ok r) :
    ∃ fs : List GoError, fs.length = k ∧
      ((sendResults evs = fs.map some ++ [none] ∧ r = none ∧ k < n) ∨
        (sendResults evs = fs.map some ∧ r = some errCanceled ∧ k < n) ∨
        (sendResults evs = fs.map some ∧ r = fs.getLast?.or last ∧ k = n)) := by
  induction h with
  | exhausted =>
    cases hr
    exact ⟨[], rfl, Or.inr (Or.inr ⟨rfl, rfl, rfl⟩)⟩
  | stopped hwaits _ =>
    cases hr
    exact ⟨[], rfl, Or.inr (Or.inl ⟨sendResults_of_waits hwaits, rfl, Nat.succ_pos _⟩)⟩
  | undrawn => cases hr
  | delivered hwaits _ =>
    cases hr
    refine ⟨[], rfl, Or.inl ⟨?_, rfl, Nat.succ_pos _⟩⟩
    rw [sendResults_append, sendResults_of_waits hwaits]
    rfl
  | panicked => cases hr
  | @failed i n k last waits evs err result hwaits _ _ ih =>
    obtain ⟨fs, hlen, hcases⟩ := ih hr
    have hsends : sendResults (waits ++ .send email (.returns (some err)) :: evs) =
        some err :: sendResults evs := by
      rw [sendResults_append, sendResults_of_waits hwaits]
      rfl
    refine ⟨err :: fs, congrArg (· + 1) hlen, ?_⟩
    rw [hsends]
    obtain ⟨hfs, hnone, hlt⟩ | ⟨hfs, hcancel, hlt⟩ | ⟨hfs, hlast, heq⟩ := hcases
    · exact Or.inl ⟨by rw [hfs]; rfl, hnone, Nat.succ_lt_succ hlt⟩
    · exact Or.inr (Or.inl ⟨by rw [hfs]; rfl, hcancel, Nat.succ_lt_succ hlt⟩)
    · refine Or.inr (Or.inr ⟨by rw [hfs]; rfl, ?_, congrArg (· + 1) heq⟩)
      rw [hlast]
      cases fs with
      | nil => rfl
      | cons f fs =>
        rw [List.getLast?_cons_cons, List.getLast?_cons]
        rfl

lemma stops (h : Tries env interval email done i n last evs result k) :
    ∀ ev ∈ evs.dropLast, ev.delivered = false := by
  have hwait : ∀ {waits : List Event}, waits.all Event.isWait = true → ∀ ev ∈ waits, ev.delivered = false := by
    intro waits hwaits ev hev
    have hw := List.all_eq_true.mp hwaits ev hev
    cases ev with
    | ctxErr err => rfl
    | sleep duration elapsed => rfl
    | _ => cases hw
  induction h with
  | exhausted => exact fun ev hev => by cases hev
  | stopped hwaits _ => exact fun ev hev => hwait hwaits ev ((List.dropLast_sublist _).subset hev)
  | undrawn hwaits _ => exact fun ev hev => hwait hwaits ev ((List.dropLast_sublist _).subset hev)
  | delivered hwaits _ =>
    rw [List.dropLast_concat]
    exact hwait hwaits
  | panicked hwaits _ =>
    rw [List.dropLast_concat]
    exact hwait hwaits
  | @failed i n k last waits evs err result hwaits _ _ ih =>
    rw [List.dropLast_append_of_ne_nil (List.cons_ne_nil _ _)]
    intro ev hev
    obtain hev | hev := List.mem_append.mp hev
    · exact hwait hwaits ev hev
    · cases evs with
      | nil => cases hev
      | cons next evs =>
        rw [List.dropLast_cons_cons] at hev
        obtain rfl | hev := List.mem_cons.mp hev
        · rfl
        · exact ih ev hev

lemma sends_pos (h : Tries env interval email false 0 (n + 1) last evs (.ok r) k) :
    0 < (sendResults evs).length := by
  cases h with
  | stopped _ hfirst => exact absurd (hfirst rfl) (by decide)
  | delivered hwaits _ =>
    rw [sendResults_append, sendResults_of_waits hwaits]
    exact Nat.one_pos
  | failed hwaits _ _ =>
    rw [sendResults_append, sendResults_of_waits hwaits]
    exact Nat.succ_pos _

lemma returns (h : Tries env interval email done i n last evs result k)
    (hsend : ∀ j, ∃ err, env.send j = .returns err)
    (hbase : ∀ j, j + 1 < i + n → 2 ≤ backoff interval j) : ∃ r, result = .ok r := by
  induction h with
  | exhausted => exact ⟨_, rfl⟩
  | stopped => exact ⟨_, rfl⟩
  | @undrawn k n last waits _ hone =>
    have htwo := hbase k (by omega)
    omega
  | delivered => exact ⟨_, rfl⟩
  | @panicked i n last waits v _ hpanic =>
    obtain ⟨err, herr⟩ := hsend i
    rw [hpanic] at herr
    cases herr
  | failed _ _ _ ih => exact ih fun j hj => hbase j (by omega)

end Tries

/-! ### The loop of the source -/

def loopAfter (e : Engine) (m : Message) (email : Email) (turns : Nat) (attempt : Int) (sent : Nat) :
    Turn → Proc (Option (Option GoError))
  | .stopped err => pure (some (some err))
  | .delivered => pure (some none)
  | .failed err => fun env w =>
    retryLoop e m email turns (wrap64 (attempt + 1)) (sent + 1) (some err) env (e.countRetried w)

section Loop

variable {e : Engine} {m : Message} {email : Email} {turns sent : Nat} {attempt : Int} {last : Option GoError}
  {env : Env} {w : World}

lemma retryLoop_succ (h : attempt ≤ e.maxAttempts) :
    retryLoop e m email (turns + 1) attempt sent last env w =
      (turn e.effectiveInterval (attempt - e.startAttempt m).toNat sent email >>=
        loopAfter e m email turns attempt sent) env w := by
  rw [retryLoop, if_pos h]
  refine bind_turn _ _ sent email (fun _ => rfl) rfl (fun _ => rfl) rfl (fun r => ?_) env w
  cases r <;> rfl

lemma retryLoop_of_lt (h : e.maxAttempts < attempt) :
    retryLoop e m email (turns + 1) attempt sent last env w = (.ok (some last), w) := by
  rw [retryLoop, if_neg (not_le.mpr h)]
  rfl

lemma startAttempt_pos (e : Engine) (m : Message) : 1 ≤ e.startAttempt m ∧ e.startAttempt m ≤ e.maxAttempts := by
  unfold startAttempt maxAttempts
  dsimp only
  split_ifs <;> omega

theorem retryLoop_eq_attempts (hmax : e.maxAttempts < maxInt64) (n i : Nat)
    (hn : e.startAttempt m + i + n = e.maxAttempts + 1) (hturns : n < turns) :
    retryLoop e m email turns (e.startAttempt m + i) i last env w =
      ((attempts e email n i last env w).1.map some, (attempts e email n i last env w).2) := by
  obtain ⟨turns, rfl⟩ := Nat.exists_eq_succ_of_ne_zero (Nat.ne_zero_of_lt hturns)
  induction n generalizing i last w turns with
  | zero => exact retryLoop_of_lt (by omega)
  | succ n ih =>
    obtain ⟨turns, rfl⟩ := Nat.exists_eq_succ_of_ne_zero (by omega : turns ≠ 0)
    have hmax' : e.maxAttempts < 2 ^ 63 - 1 := hmax
    have hpos := (startAttempt_pos e m).1
    have hindex : (e.startAttempt m + i - e.startAttempt m).toNat = i := by omega
    have hwrap : wrap64 (e.startAttempt m + i + 1) = e.startAttempt m + (i + 1 : Nat) := by
      rw [wrap64_of_nonneg (by omega) (by omega)]
      omega
    rw [retryLoop_succ (by omega), hindex, attempts_succ, Eff.bind_apply, Eff.bind_apply]
    rcases turn e.effectiveInterval i i email env w with ⟨_ | (err | _ | err), w'⟩
    · rfl
    · rfl
    · rfl
    · change retryLoop e m email _ (wrap64 (e.startAttempt m + i + 1)) (i + 1) (some err) env _ = _
      rw [hwrap]
      exact ih (i + 1) (by omega) turns (by omega)

lemma budget_eq_succ (e : Engine) (m : Message) :
    ∃ n, e.budget m = n + 1 ∧ e.startAttempt m + (n + 1 : Nat) = e.maxAttempts + 1 := by
  obtain ⟨-, hle⟩ := startAttempt_pos e m
  refine ⟨(e.maxAttempts - e.startAttempt m).toNat, ?_, ?_⟩
  · unfold budget
    omega
  · omega

/-- The loop with its 64-bit variable is the one over the remaining attempts. -/
theorem retryLoop_eq_sendWithRetry (hmax : e.maxAttempts < maxInt64) (hturns : e.budget w.msg < turns) :
    retryLoop e w.msg email turns (e.startAttempt w.msg) 0 none env w =
      ((e.sendWithRetry email env w).1.map some, (e.sendWithRetry email env w).2) := by
  obtain ⟨n, hn, hsum⟩ := budget_eq_succ e w.msg
  have hstart : e.startAttempt w.msg = e.startAttempt w.msg + (0 : Nat) := by omega
  rw [hstart, retryLoop_eq_attempts hmax (e.budget w.msg) 0 (by omega) hturns]
  rfl

lemma retryLoop_unfinished (hmax : maxInt64 ≤ e.maxAttempts) (hsend : ∀ j, ∃ err, env.send j = .returns (some err))
    (hlive : ∀ clock, env.done clock = false) (hattempt : IsInt64 attempt) {r : Option GoError} {w' : World}
    (hrun : retryLoop e m email turns attempt sent last env w = (.ok (some r), w')) : False := by
  induction turns generalizing attempt sent last w with
  | zero => cases hrun
  | succ turns ih =>
    have hle : attempt ≤ e.maxAttempts := by
      have hlt := hattempt.lt
      unfold maxInt64 at hmax
      omega
    obtain ⟨err, herr⟩ := hsend sent
    rw [retryLoop_succ hle] at hrun
    obtain ⟨waits, -, ⟨-, ⟨clock, hdone⟩, -⟩ | ⟨k, -, -, hturn⟩ | ⟨err', hsend', hturn⟩ | ⟨v, hsend', -⟩⟩ :=
      turn_cases e.effectiveInterval (attempt - e.startAttempt m).toNat sent email env w
    · rw [hlive clock] at hdone
      cases hdone
    · rw [Eff.bind_of_error hturn] at hrun
      cases hrun
    · rw [herr] at hsend'
      cases hsend'
      rw [Eff.bind_of_ok hturn] at hrun
      exact ih (isInt64_wrap64 _) hrun
    · rw [herr] at hsend'
      cases hsend'

lemma retryLoop_undrawn (hmax : e.maxAttempts < maxInt64) (hretry : e.startAttempt m < e.maxAttempts)
    (hbase : backoff e.effectiveInterval 0 ≤ 1) (hsend : ∀ j, ∃ err, env.send j = .returns (some err))
    (hlive : ∀ clock, env.done clock = false) {r : Option GoError} {w' : World}
    (hrun : retryLoop e m email turns (e.startAttempt m) 0 none env w = (.ok (some r), w')) : False := by
  have hpos := (startAttempt_pos e m).1
  have hmax' : e.maxAttempts < 2 ^ 63 - 1 := hmax
  have hwrap : wrap64 (e.startAttempt m + 1) = e.startAttempt m + 1 := wrap64_of_nonneg (by omega) (by omega)
  obtain ⟨err, herr⟩ := hsend 0
  cases turns with
  | zero => cases hrun
  | succ turns =>
    rw [retryLoop_succ (Int.le_of_lt hretry), Int.sub_self, Int.toNat_zero,
      Eff.bind_of_ok (turn_of_send e.effectiveInterval 0 email (hlive _) herr)] at hrun
    change retryLoop e m email turns (wrap64 (e.startAttempt m + 1)) 1 (some err) env _ = _ at hrun
    rw [hwrap] at hrun
    cases turns with
    | zero => cases hrun
    | succ turns =>
      have hindex : (e.startAttempt m + 1 - e.startAttempt m).toNat = 0 + 1 := by omega
      rw [retryLoop_succ hretry, hindex,
        Eff.bind_of_error (turn_of_undrawn e.effectiveInterval 1 email (hlive _) hbase)] at hrun
      cases hrun

end Loop

/-! ### The budget -/

def retryBudget (maxRetries attempts : Int) : Nat :=
  (max 1 maxRetries - min (max 1 maxRetries) (max 1 attempts) + 1).toNat

lemma maxAttempts_eq (e : Engine) : e.maxAttempts = max 1 e.maxRetries := by
  unfold maxAttempts
  split_ifs <;> omega

lemma budget_eq (e : Engine) (m : Message) : e.budget m = retryBudget e.maxRetries m.attempts := by
  have hstart : e.startAttempt m = min (max 1 e.maxRetries) (max 1 m.attempts) := by
    unfold startAttempt
    rw [maxAttempts_eq]
    dsimp only
    split_ifs <;> omega
  unfold budget retryBudget
  rw [hstart, maxAttempts_eq]

/-- What a call of `sendWithRetry` owes for a number of attempts: its calls, its result, and what it has
added to the counter of retries. -/
structure WithinBudget (budget : Nat) (done : Bool) (evs : List Event) (r : Option GoError) (retried : Int) :
    Prop where
  at_most : (sendResults evs).length ≤ budget
  at_least : done = false → 1 ≤ (sendResults evs).length
  stops : ∀ ev ∈ evs.dropLast, ev.delivered = false
  nil_iff : r = none ↔ (sendResults evs).getLast? = some none
  error_cases : ∀ err, r = some err → err = errCanceled ∨
    ∃ fs : List GoError, sendResults evs = fs.map some ∧ fs.length = budget ∧ fs.getLast? = some err
  retried_eq : retried = (sendResults evs).countP Option.isSome

lemma countP_isSome_map (fs : List GoError) : (fs.map some).countP Option.isSome = fs.length := by
  rw [List.countP_map, List.countP_eq_length]
  exact fun _ _ => rfl

lemma getLast?_map_some_ne (fs : List GoError) : (fs.map some).getLast? ≠ some none := by
  rw [List.getLast?_map]
  cases fs.getLast? <;> simp

lemma Tries.withinBudget {env : Env} {interval : Duration} {email : Email} {done : Bool} {n k : Nat}
    {evs : List Event} {r : Option GoError}
    (h : Tries env interval email done 0 (n + 1) none evs (.ok r) k) :
    WithinBudget (n + 1) done evs r k := by
  have hfirst : done = false → 1 ≤ (sendResults evs).length := by
    rintro rfl
    exact h.sends_pos
  obtain ⟨fs, rfl, ⟨hres, rfl, hlt⟩ | ⟨hres, rfl, hlt⟩ | ⟨hres, hlast, heq⟩⟩ := h.results rfl
  · refine ⟨?_, hfirst, h.stops, ?_, fun err herr => (by cases herr), ?_⟩
    · rw [hres, List.length_append, List.length_map]
      exact hlt
    · rw [hres, List.getLast?_concat]
      exact iff_of_true rfl rfl
    · rw [hres, List.countP_append, countP_isSome_map]
      rfl
  · refine ⟨?_, hfirst, h.stops, ?_, fun err herr => Or.inl ?_, ?_⟩
    · rw [hres, List.length_map]
      exact Nat.le_of_lt hlt
    · rw [hres]
      exact iff_of_false (by simp) (getLast?_map_some_ne fs)
    · cases herr
      rfl
    · rw [hres, countP_isSome_map]
  · -- all attempts were made and failed
    have hne : fs ≠ [] := List.ne_nil_of_length_eq_add_one heq
    obtain ⟨err, herr⟩ : ∃ err, fs.getLast? = some err := ⟨_, List.getLast?_eq_some_getLast hne⟩
    rw [herr, Option.some_or] at hlast
    subst hlast
    refine ⟨?_, hfirst, h.stops, ?_, fun err' herr' => Or.inr ⟨fs, hres, heq, ?_⟩, ?_⟩
    · rw [hres, List.length_map]
      exact Nat.le_of_eq heq
    · rw [hres]
      exact iff_of_false (by simp) (getLast?_map_some_ne fs)
    · rw [herr, herr']
    · rw [hres, countP_isSome_map]

/-- The loop returns after some number of turns, and keeps its budget. -/
def KeepsBudget (e : Engine) (m : Message) (email : Email) (env : Env) (w : World) : Prop :=
  ∃ turns r w' evs, retryLoop e m email turns (e.startAttempt m) 0 none env w = (.ok (some r), w') ∧
    w'.events = w.events ++ evs ∧
    WithinBudget (retryBudget e.maxRetries m.attempts) (env.done w.clock) evs r
      (w'.stats.totalRetried - w.stats.totalRetried)

lemma two_le_backoff_effective {e : Engine} (h64 : IsInt64 e.retryInterval) (hone : e.retryInterval ≠ 1) (k : Nat) :
    2 ≤ backoff e.effectiveInterval k := by
  have hlt : e.retryInterval < (2 : Int) ^ 63 := h64.lt
  by_cases hpos : e.retryInterval ≤ 0
  · have hdefault : e.effectiveInterval = defaultRetryInterval := if_pos hpos
    rw [hdefault]
    exact two_le_backoff (by decide) ⟨by decide, by decide⟩ k
  · rw [effectiveInterval_of_pos (not_le.mp hpos)]
    refine two_le_backoff ?_ h64 k
    have hge : (1 : Int) ≤ e.retryInterval := not_le.mp hpos
    exact lt_of_le_of_ne hge (Ne.symm hone)

lemma keepsBudget {e : Engine} {m : Message} (h64 : IsInt64 e.retryInterval) (hmax : e.maxAttempts < maxInt64)
    (hone : e.retryInterval = 1 → retryBudget e.maxRetries m.attempts = 1) (email : Email) {env : Env}
    (hsend : ∀ i, ∃ err, env.send i = .returns err) (w : World) : KeepsBudget e m email env w := by
  obtain ⟨n, hn, hsum⟩ := budget_eq_succ e m
  obtain ⟨result, w', evs, k, hrun, htries, hleaves⟩ :=
    attempts_tries e email env (env.done w.clock) (n + 1) 0 none w fun _ => rfl
  have hbase : ∀ j, j + 1 < 0 + (n + 1) → 2 ≤ backoff e.effectiveInterval j := by
    intro j hj
    refine two_le_backoff_effective h64 (fun h => ?_) j
    have hbudget := hone h
    rw [← budget_eq, hn] at hbudget
    omega
  obtain ⟨r, rfl⟩ := htries.returns hsend hbase
  have hstart : e.startAttempt m = e.startAttempt m + (0 : Nat) := by omega
  refine ⟨n + 2, r, w', evs, ?_, hleaves.events, ?_⟩
  · rw [hstart, retryLoop_eq_attempts hmax (n + 1) 0 (by omega) (by omega), hrun]
    rfl
  · have hwithin := htries.withinBudget
    rw [← budget_eq, hn, hleaves.stats]
    simpa using hwithin

end Engine

end MailBaby

namespace MailBaby.Proofs

open Lib Engine

lemma failingSend_live (clock : Nat) : failingSend.done clock = false := rfl

lemma failingSend_send (j : Nat) : ∃ err, failingSend.send j = .returns (some err) := ⟨_, rfl⟩

/-- Whatever `Send` returns and whenever the context is cancelled, the loop keeps its budget, exactly if its
variable can pass the number of attempts and no retry follows an interval of one nanosecond. -/
theorem retry_budget_iff (e : Engine) (m : Message) (email : Email) (hmax : IsInt64 e.maxRetries)
    (h64 : IsInt64 e.retryInterval) :
    (∀ env w, (∀ i, ∃ err, env.send i = .returns err) → KeepsBudget e m email env w) ↔
      e.maxRetries ≠ maxInt64 ∧ (e.retryInterval = 1 → retryBudget e.maxRetries m.attempts = 1) := by
  have hle : e.maxRetries < 2 ^ 63 := hmax.lt
  have hmaxAttempts := maxAttempts_eq e
  have hint : maxInt64 = 2 ^ 63 - 1 := rfl
  obtain ⟨hpos, hstart⟩ := startAttempt_pos e m
  constructor
  · intro h
    obtain ⟨turns, r, w', evs, hrun, -⟩ :=
      h failingSend {} fun i => ⟨_, (failingSend_send i).choose_spec⟩
    have hne : e.maxRetries ≠ maxInt64 := by
      intro heq
      exact retryLoop_unfinished (by omega) failingSend_send failingSend_live ⟨by omega, by omega⟩ hrun
    refine ⟨hne, fun hone => ?_⟩
    by_contra hbudget
    rw [← budget_eq] at hbudget
    obtain ⟨n, hn, hsum⟩ := budget_eq_succ e m
    have hinterval : e.effectiveInterval = 1 := by
      rw [effectiveInterval_of_pos (by rw [hone]; decide), hone]
    refine retryLoop_undrawn (by omega) (by omega) ?_ failingSend_send failingSend_live hrun
    rw [hinterval]
    decide
  · rintro ⟨hne, hone⟩ env w hsend
    exact keepsBudget h64 (by omega) hone email hsend w

def defaultEngine : Engine := Engine.new ⟨.memory, {}⟩ none []

theorem retry_budget_iff_default : IsInt64 defaultEngine.maxRetries ∧ IsInt64 defaultEngine.retryInterval ∧
    KeepsBudget defaultEngine { attempts := 2 } {} failingSend {} := by
  have hmax : IsInt64 defaultEngine.maxRetries := ⟨by decide, by decide⟩
  have h64 : IsInt64 defaultEngine.retryInterval := ⟨by decide, by decide⟩
  exact ⟨hmax, h64, (retry_budget_iff defaultEngine { attempts := 2 } {} hmax h64).mpr
    ⟨by decide, fun h => absurd h (by decide)⟩ failingSend {} fun i => ⟨_, rfl⟩⟩

theorem retryLoop_eq_sendWithRetry_default :
    retryLoop defaultEngine {} {} 9 (defaultEngine.startAttempt {}) 0 none failingSend {} =
      ((defaultEngine.sendWithRetry {} failingSend {}).1.map some,
        (defaultEngine.sendWithRetry {} failingSend {}).2) := by
  have hturns : defaultEngine.budget ({} : World).msg < 9 := by decide
  exact retryLoop_eq_sendWithRetry (by decide) hturns

def hastyEngine : Engine := Engine.new ⟨.memory, {}⟩ none [.withRetryInterval 1]

def tirelessEngine : Engine := Engine.new ⟨.memory, {}⟩ none [.withMaxRetries maxInt64]

/-- With an interval of one nanosecond the first retry panics. With the largest number of retries a message
that was delivered as often is sent again and again: the loop variable wraps around. -/
theorem retry_budget_missed : ¬KeepsBudget hastyEngine { attempts := 1 } {} failingSend {} ∧
    ¬KeepsBudget tirelessEngine { attempts := maxInt64 } {} failingSend {} := by
  constructor
  · rintro ⟨turns, r, w', evs, hrun, -⟩
    exact retryLoop_undrawn (by decide) (by decide) (by decide) failingSend_send failingSend_live hrun
  · rintro ⟨turns, r, w', evs, hrun, -⟩
    exact retryLoop_unfinished (by decide) failingSend_send failingSend_live ⟨by decide, by decide⟩ hrun

end MailBaby.Proofs
