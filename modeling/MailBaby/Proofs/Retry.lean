import MailBaby.Runtime.Engine

/-!
# The retry loop

What `sendWithRetry` does is settled by the environment: `DeliversAt` says which attempt, if any, gets a nil
result from `Send`.
-/

namespace MailBaby

open Lib

def Event.idle (ev : Event) : Bool := !ev.delivered && !ev.deadLettered && !ev.isAck

/-- `w'` is `w` after idle calls; the delivered message is untouched. -/
structure Idles (w w' : World) : Prop where
  msg : w'.msg = w.msg
  events : ∃ evs, w'.events = w.events ++ evs ∧ evs.all Event.idle = true

namespace Idles

variable {w w' w'' : World}

lemma of_same (hm : w'.msg = w.msg) (he : w'.events = w.events) : Idles w w' :=
  ⟨hm, [], by simp [he], rfl⟩

lemma refl (w : World) : Idles w w := of_same rfl rfl

lemma emit (w : World) (ev : Event) (h : ev.idle = true) : Idles w (w.emit ev) :=
  ⟨rfl, [ev], rfl, by simp [h]⟩

lemma trans (h : Idles w w') (h' : Idles w' w'') : Idles w w'' := by
  obtain ⟨evs, he, hevs⟩ := h.events
  obtain ⟨evs', he', hevs'⟩ := h'.events
  refine ⟨h'.msg.trans h.msg, evs ++ evs', ?_, ?_⟩
  · rw [he', he, List.append_assoc]
  · rw [List.all_append, hevs, hevs']
    rfl

private lemma any_eq_false {f : Event → Bool} (hf : ∀ ev : Event, ev.idle = true → f ev = false)
    {evs : List Event} (h : evs.all Event.idle = true) : evs.any f = false := by
  rw [List.any_eq_false]
  intro ev hev
  rw [List.all_eq_true] at h
  simp [hf ev (h ev hev)]

lemma any_eq (h : Idles w w') {f : Event → Bool}
    (hf : ∀ ev : Event, ev.idle = true → f ev = false) : w'.events.any f = w.events.any f := by
  obtain ⟨evs, he, hevs⟩ := h.events
  rw [he, List.any_append, any_eq_false hf hevs, Bool.or_false]

lemma sent_eq (h : Idles w w') : w'.sent = w.sent :=
  h.any_eq fun ev hev => by
    cases hd : ev.delivered
    · rfl
    · simp [Event.idle, hd] at hev

lemma deadLettered_eq (h : Idles w w') : w'.deadLettered = w.deadLettered :=
  h.any_eq fun ev hev => by
    cases hd : ev.deadLettered
    · rfl
    · simp [Event.idle, hd] at hev

lemma settled_eq (h : Idles w w') : w'.settled = w.settled :=
  h.any_eq fun ev hev => by
    cases ev with
    | ack => simp [Event.idle, Event.isAck] at hev
    | _ => rfl

lemma ackCalls_eq (h : Idles w w') : w'.ackCalls = w.ackCalls := by
  obtain ⟨evs, he, hevs⟩ := h.events
  have hnone : evs.countP Event.isAck = 0 := by
    rw [List.countP_eq_zero]
    intro ev hev
    rw [List.all_eq_true] at hevs
    have hidle := hevs ev hev
    simp only [Event.idle, Bool.and_eq_true, Bool.not_eq_true'] at hidle
    simp [hidle.2]
  unfold World.ackCalls
  rw [he, List.countP_append, hnone, Nat.add_zero]

end Idles

namespace Engine

lemma backoff_pos (interval : Duration) (k : Nat) : 0 < backoff interval k := by
  unfold backoff
  dsimp only
  split_ifs with h
  · decide
  · omega

lemma pause_succ (interval : Duration) (k : Nat) (env : Env) (w : World) :
    ∃ d, pause interval (k + 1) env w =
      if backoff interval k ≤ 1 then (.error "invalid argument to Int63n", w)
      else
        let elapsed := !env.done w.clock || env.timer (k + 1)
        (.ok (if elapsed then none else some errCanceled), w.emit (.sleep d elapsed)) := by
  have hpos := backoff_pos interval k
  have hdiv : (backoff interval k).tdiv 2 = backoff interval k / 2 :=
    Int.tdiv_eq_ediv_of_nonneg (Int.le_of_lt hpos)
  unfold pause int63n
  dsimp only
  by_cases h : backoff interval k ≤ 1
  · have hle : (backoff interval k).tdiv 2 ≤ 0 := by omega
    simp only [if_pos h, if_pos hle]
    exact ⟨0, rfl⟩
  · have hgt : ¬(backoff interval k).tdiv 2 ≤ 0 := by omega
    simp only [if_neg h, if_neg hgt]
    exact ⟨_, rfl⟩

end Engine

/-- Attempt `i` gets as far as its `Send`, given that the attempts before it failed: the context
is live at the check and the pause before a retry ends by its timer. Attempt `i` checks the
context at clock `3 * i - 1`, sleeps at `3 * i` and sends at `3 * i + 1`. -/
def Env.starts (env : Env) (interval : Duration) (i : Nat) : Prop :=
  env.done (3 * i - 1) = false ∧
    ∀ k, i = k + 1 → 2 ≤ Engine.backoff interval k ∧ (env.done (3 * i) = false ∨ env.timer i = true)

/-- Of the `n` attempts from index `i` on, attempt `k` is the one whose `Send` returns nil. -/
structure DeliversAt (env : Env) (interval : Duration) (i n k : Nat) : Prop where
  le : i ≤ k
  lt : k < i + n
  starts : ∀ j, i ≤ j → j ≤ k → env.starts interval j
  failed : ∀ j, i ≤ j → j < k → ∃ err, env.send j = .returns (some err)
  delivered : env.send k = .returns none

namespace DeliversAt

variable {env : Env} {interval : Duration} {i n k : Nat}

lemma starts_first (h : DeliversAt env interval i n k) : env.starts interval i :=
  h.starts i le_rfl h.le

lemma unique {k' : Nat} (h : DeliversAt env interval i n k) (h' : DeliversAt env interval i n k') :
    k = k' := by
  rcases Nat.lt_trichotomy k k' with hlt | heq | hgt
  · obtain ⟨err, herr⟩ := h'.failed k h.le hlt
    rw [h.delivered] at herr
    cases herr
  · exact heq
  · obtain ⟨err, herr⟩ := h.failed k' h'.le hgt
    rw [h'.delivered] at herr
    cases herr

lemma succ_iff {err : GoError} (hs : env.starts interval i) (hi : env.send i = .returns (some err)) :
    DeliversAt env interval i (n + 1) k ↔ DeliversAt env interval (i + 1) n k := by
  constructor
  · intro h
    have hne : k ≠ i := by
      rintro rfl
      rw [h.delivered] at hi
      cases hi
    have hle := h.le
    have hlt := h.lt
    exact ⟨by omega, by omega, fun j hj => h.starts j (by omega), fun j hj => h.failed j (by omega),
      h.delivered⟩
  · intro h
    have hle := h.le
    have hlt := h.lt
    refine ⟨by omega, by omega, fun j hj hjk => ?_, fun j hj hjk => ?_, h.delivered⟩
    · by_cases hji : j = i
      · exact hji ▸ hs
      · exact h.starts j (by omega) hjk
    · by_cases hji : j = i
      · exact ⟨err, hji ▸ hi⟩
      · exact h.failed j (by omega) hjk

end DeliversAt

namespace Engine

variable {e : Engine} {email : Email} {env : Env} {n i : Nat} {w : World}

lemma ctxErr_apply (env : Env) (w : World) :
    ctxErr env w = (.ok (if env.done w.clock then some errCanceled else none),
      w.emit (.ctxErr (if env.done w.clock then some errCanceled else none))) := rfl

lemma attempts_of_not_starts (last : Option GoError) (hclock : w.clock = 3 * i - 1)
    (h : ¬env.starts e.effectiveInterval i) :
    ∃ r w', attempts e email (n + 1) i last env w = (r, w') ∧ r ≠ .ok none ∧ Idles w w' := by
  rw [attempts]
  by_cases hdone : env.done w.clock = true
  · refine ⟨.ok (some errCanceled), w.emit (.ctxErr (some errCanceled)), ?_, by simp, Idles.emit w _ rfl⟩
    rw [Eff.bind_of_ok (ctxErr_apply env w)]
    simp [hdone]
  · have hlive : env.done w.clock = false := by simpa using hdone
    rw [Eff.bind_of_ok (ctxErr_apply env w)]
    simp only [hlive, Bool.false_eq_true, if_false]
    have hw : Idles w (w.emit (.ctxErr none)) := Idles.emit w _ rfl
    cases i with
    | zero => exact absurd ⟨hclock ▸ hlive, fun k hk => by omega⟩ h
    | succ k =>
      obtain ⟨d, hp⟩ := pause_succ e.effectiveInterval k env (w.emit (.ctxErr none))
      by_cases hb : backoff e.effectiveInterval k ≤ 1
      · rw [if_pos hb] at hp
        exact ⟨_, _, Eff.bind_of_error hp _, by simp, hw⟩
      · rw [if_neg hb] at hp
        have hclock' : (w.emit (.ctxErr none)).clock = 3 * (k + 1) := by
          simp only [World.clock, World.emit_events, List.length_append, List.length_singleton] at hclock ⊢
          omega
        have helapsed : (!env.done (w.emit (.ctxErr none)).clock || env.timer (k + 1)) = false := by
          rw [hclock']
          by_contra hne
          refine h ⟨hclock ▸ hlive, fun k' hk' => ?_⟩
          obtain rfl : k = k' := by omega
          refine ⟨by omega, ?_⟩
          cases hd : env.done (3 * (k + 1)) with
          | false => exact Or.inl rfl
          | true => exact Or.inr (by simpa [hd] using hne)
        rw [helapsed] at hp
        refine ⟨_, _, Eff.bind_of_ok hp _, by simp, hw.trans (Idles.emit _ _ rfl)⟩

lemma attempts_of_starts (email : Email) (n : Nat) (last : Option GoError) (hclock : w.clock = 3 * i - 1)
    (h : env.starts e.effectiveInterval i) :
    ∃ w', Idles w w' ∧ w'.clock = 3 * i + 1 ∧
      attempts e email (n + 1) i last env w = (send i email >>= fun err => match err with
        | none => pure none
        | some lastErr => do
          Eff.update (World.count · fun s => { s with totalRetried := s.totalRetried + 1 })
          Eff.update (World.record · (.queueRetried e.queue.driver.name e.queue.name))
          attempts e email n (i + 1) (some lastErr)) env w' := by
  have hlive : env.done w.clock = false := hclock ▸ h.1
  have hw : Idles w (w.emit (.ctxErr none)) := Idles.emit w _ rfl
  rw [attempts, Eff.bind_of_ok (ctxErr_apply env w)]
  simp only [hlive, Bool.false_eq_true, if_false]
  have hlen : (w.emit (.ctxErr none)).clock = w.clock + 1 := by
    simp [World.clock]
  cases i with
  | zero => exact ⟨_, hw, by rw [hlen, hclock], rfl⟩
  | succ k =>
    obtain ⟨d, hp⟩ := pause_succ e.effectiveInterval k env (w.emit (.ctxErr none))
    obtain ⟨hb, hwake⟩ := h.2 k rfl
    rw [if_neg (by omega)] at hp
    have helapsed : (!env.done (w.emit (.ctxErr none)).clock || env.timer (k + 1)) = true := by
      have hclock' : (w.emit (.ctxErr none)).clock = 3 * (k + 1) := by omega
      rw [hclock']
      rcases hwake with hd | ht
      · rw [hd]
        rfl
      · rw [ht, Bool.or_true]
    rw [helapsed] at hp
    refine ⟨_, hw.trans (Idles.emit _ (.sleep d true) rfl), ?_, Eff.bind_of_ok hp _⟩
    simp only [World.clock, World.emit_events, List.length_append, List.length_singleton] at hclock ⊢
    omega

lemma send_of_returns {err : Option GoError} (h : env.send i = .returns err) :
    send i email env w = (.ok err, w.emit (.send email (.returns err))) := by
  simp only [send, call, h]

lemma send_of_panics {v : String} (h : env.send i = .panics v) :
    send i email env w = (.error v, w.emit (.send email (.panics v))) := by
  simp only [send, call, h]

theorem attempts_spec (e : Engine) (email : Email) (env : Env) (n : Nat) (last : Option GoError)
    (hclock : w.clock = 3 * i - 1)
    (hlast : n = 0 → last.isSome = true) :
    (∃ k w', DeliversAt env e.effectiveInterval i n k ∧ Idles w w' ∧ w'.clock = 3 * k + 1 ∧
      attempts e email n i last env w = (.ok none, w'.emit (.send email (.returns none)))) ∨
    ((∀ k, ¬DeliversAt env e.effectiveInterval i n k) ∧
      ∃ r w', attempts e email n i last env w = (r, w') ∧ r ≠ .ok none ∧ Idles w w') := by
  induction n generalizing i last w with
  | zero =>
    refine Or.inr ⟨fun k hk => absurd hk.lt (by have := hk.le; omega), .ok last, w, rfl, ?_, Idles.refl w⟩
    intro hnone
    cases hnone
    simp at hlast
  | succ n ih =>
    by_cases hs : env.starts e.effectiveInterval i
    swap
    · exact Or.inr ⟨fun k hk => hs hk.starts_first, attempts_of_not_starts last hclock hs⟩
    obtain ⟨w₁, hw₁, hclock₁, heq⟩ := attempts_of_starts email n last hclock hs
    rw [heq]
    cases hsend : env.send i with
    | panics v =>
      refine Or.inr ⟨fun k hk => ?_, .error v, w₁.emit (.send email (.panics v)), ?_, by simp,
        hw₁.trans (Idles.emit w₁ _ rfl)⟩
      · by_cases hki : k = i
        · have hd := hk.delivered
          rw [hki, hsend] at hd
          cases hd
        · obtain ⟨err, herr⟩ := hk.failed i le_rfl (by have := hk.le; omega)
          rw [hsend] at herr
          cases herr
      · exact Eff.bind_of_error (send_of_panics hsend) _
    | returns err =>
      rw [Eff.bind_of_ok (send_of_returns hsend)]
      cases err with
      | none =>
        refine Or.inl ⟨i, w₁, ⟨le_rfl, by omega, fun j hij hji => ?_, fun j hij hji => ?_, hsend⟩, hw₁,
          hclock₁, rfl⟩
        · obtain rfl : j = i := by omega
          exact hs
        · omega
      | some err =>
        let w₂ := ((w₁.emit (.send email (.returns (some err)))).count
          fun s => { s with totalRetried := s.totalRetried + 1 }).record
            (.queueRetried e.queue.driver.name e.queue.name)
        have hw₂ : Idles w w₂ := hw₁.trans
          ((Idles.emit w₁ (.send email (.returns (some err))) rfl).trans (Idles.of_same rfl rfl))
        have hclock₂ : w₂.clock = 3 * (i + 1) - 1 := by
          have hlen : w₂.clock = w₁.clock + 1 := by simp [w₂, World.clock]
          omega
        change (∃ k w', DeliversAt env e.effectiveInterval i (n + 1) k ∧ Idles w w' ∧
            w'.clock = 3 * k + 1 ∧ attempts e email n (i + 1) (some err) env w₂ = _) ∨
          (_ ∧ ∃ r w', attempts e email n (i + 1) (some err) env w₂ = (r, w') ∧ _)
        rcases ih (some err) hclock₂ (fun _ => rfl) with
          ⟨k, w', hk, hw', hc', hrun⟩ | ⟨hno, r, w', hrun, hr, hw'⟩
        · exact Or.inl ⟨k, w', (DeliversAt.succ_iff hs hsend).mpr hk, hw₂.trans hw', hc', hrun⟩
        · exact Or.inr ⟨fun k hk => hno k ((DeliversAt.succ_iff hs hsend).mp hk), r, w', hrun, hr,
            hw₂.trans hw'⟩

end Engine

end MailBaby
