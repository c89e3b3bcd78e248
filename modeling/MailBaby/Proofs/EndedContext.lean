import MailBaby.Proofs.Conservation
import MailBaby.Proofs.DelayedPublish

/-!
# Publishing with an ended context

`publishItem` looks at its context once, before a send that may block. What becomes of a call whose context
has ended is settled by whether it is past that look.
-/

namespace MailBaby.MemoryTraffic

open Lib
open MemoryQueue (Context errInvalidMessage)

variable {name : String} {s s' : State} {p p' : Publish}
variable {c : System State Thread} {tid ref : Nat} {a : Action} {now : Time}

lemma isSome_err_iff {ctx : Context} : (ctx.err now).isSome = true ↔
    ctx.callerDone = true ∨ ctx.cancelled = true ∨ ctx.deadline.any (· ≤ now) = true := by
  rw [← not_iff_not, Bool.not_eq_true, Option.isSome_eq_false_iff, Option.isNone_iff_eq_none,
    Context.err_none_iff]
  simp only [not_or, Bool.not_eq_true]

def Publish.hasEnded (now : Time) (p : Publish) : Bool := (p.ctx.err now).isSome

lemma hasEnded_mono {now' : Time} (hle : now ≤ now') (h : p.hasEnded now = true) :
    p.hasEnded now' = true := by
  apply isSome_err_iff.mpr
  rcases isSome_err_iff.mp h with hdone | hcancelled | hdeadline
  · exact .inl hdone
  · exact .inr (.inl hcancelled)
  · obtain ⟨deadline, hd, hpast⟩ := (Option.any_eq_true _ _).mp hdeadline
    refine .inr (.inr ((Option.any_eq_true _ _).mpr ⟨deadline, hd, ?_⟩))
    exact decide_eq_true ((of_decide_eq_true hpast).trans hle)

lemma hasEnded_begun (name : String) (m : Message) (hundated : p.ctx.deadline = none) (h : p.hasEnded now = true) :
    (p.begun name s m).hasEnded now = true := by
  have hkeeps : (p.begun name s m).ctx.callerDone = p.ctx.callerDone ∧
      (p.begun name s m).ctx.cancelled = p.ctx.cancelled := by
    simp only [Publish.begun, Context.withTimeout]
    split <;> exact ⟨rfl, rfl⟩
  apply isSome_err_iff.mpr
  rw [hkeeps.1, hkeeps.2]
  rcases isSome_err_iff.mp h with hdone | hcancelled | hdeadline
  · exact .inl hdone
  · exact .inr (.inl hcancelled)
  · rw [hundated] at hdeadline
    cases hdeadline

/-! ### Calls that can only fail -/

inductive Doomed (s : State) (p : Publish) : Prop
  | early (hended : p.hasEnded s.now = true) (hcaller : p.caller.early = true)
  | checking (hended : p.hasEnded s.now = true) (hcaller : p.caller = .publishing .checking)
  | sending (hclosed : s.ch.closed = true) (hcaller : p.caller = .publishing .sending)
  | returning (err : GoError) (hcaller : p.caller = .returning (.returns (some err)))
  | returned (err : GoError) (hcaller : p.caller = .returned (.returns (some err)))

structure Later (s s' : State) : Prop where
  now : s.now ≤ s'.now
  closed : s.ch.closed = true → s'.ch.closed = true

lemma Frame.later (h : Frame s s') : Later s s' :=
  ⟨h.now.ge, fun hclosed => h.channelClosed.trans hclosed⟩

lemma CloseStep.later {c c' : Close} (h : CloseStep s c a s' c') : Later s s' := by
  cases h with
  | closed hopen => exact ⟨le_rfl, fun _ => rfl⟩
  | _ => exact ⟨le_rfl, id⟩

lemma ThreadStep.later {l l' : Thread} (h : ThreadStep name s l a s' l') : Later s s' := by
  cases h with
  | tick l d => exact ⟨Int.le_add_of_nonneg_right (Int.natCast_nonneg d), id⟩
  | publish p p' a s' h => exact h.frame.later
  | serve l l' a s' hl hl' h => exact h.frame.1.later
  | close c c' a s' h => exact h.later

lemma CallStep.later {i : Request} {l : Thread} (h : CallStep s i s' l) : Later s s' := by
  cases h with
  | _ => exact ⟨le_rfl, id⟩

lemma later_next {d : System State Thread} {m : Move Request Action} (h : (program name).next c m = some d) :
    Later c.shared d.shared := by
  rcases Program.next_cases h with ⟨i, s, l, -, hcall, rfl, -⟩ | ⟨tid, a, l, s, l', rest, -, -, hstep, -, rfl, -⟩ |
    ⟨tid, tid', l, k, s, l', k', rest, -, hmeet, -⟩
  · exact (callStep_of_request hcall).later
  · exact (threadStep_of_step hstep).later
  · cases hmeet

lemma Doomed.later (h : Doomed s p) (hlater : Later s s') : Doomed s' p := by
  cases h with
  | early hended hcaller => exact .early (hasEnded_mono hlater.now hended) hcaller
  | checking hended hcaller => exact .checking (hasEnded_mono hlater.now hended) hcaller
  | sending hclosed hcaller => exact .sending (hlater.closed hclosed) hcaller
  | returning err hcaller => exact .returning err hcaller
  | returned err hcaller => exact .returned err hcaller

lemma Doomed.caller_cases (h : Doomed s p) :
    p.caller ≠ .publishing .counting ∧ p.caller.returnsNil = false ∧
      (p.caller = .publishing .checking → p.hasEnded s.now = true) ∧
      (p.caller = .publishing .sending → s.ch.closed = true) := by
  cases h with
  | early hended hcaller =>
    cases hp : p.caller with
    | entered => exact ⟨Caller.noConfusion, rfl, fun _ => hended, fun h => Caller.noConfusion h⟩
    | admitted => exact ⟨Caller.noConfusion, rfl, fun _ => hended, fun h => Caller.noConfusion h⟩
    | _ =>
      rw [hp] at hcaller
      cases hcaller
  | checking hended hcaller =>
    rw [hcaller]
    exact ⟨by decide, rfl, fun _ => hended, fun h => absurd h (by decide)⟩
  | sending hclosed hcaller =>
    rw [hcaller]
    exact ⟨by decide, rfl, fun h => absurd h (by decide), fun _ => hclosed⟩
  | returning err hcaller =>
    rw [hcaller]
    exact ⟨Caller.noConfusion, rfl, fun h => Caller.noConfusion h, fun h => Caller.noConfusion h⟩
  | returned err hcaller =>
    rw [hcaller]
    exact ⟨Caller.noConfusion, rfl, fun h => Caller.noConfusion h, fun h => Caller.noConfusion h⟩

lemma Doomed.hasEnded_of_early (h : Doomed s p) (hearly : p.caller.early = true) : p.hasEnded s.now = true := by
  cases h with
  | early hended hcaller => exact hended
  | checking hended hcaller => exact hended
  | sending hclosed hcaller | returning err hcaller | returned err hcaller =>
    rw [hcaller] at hearly
    cases hearly

lemma Doomed.item {i : Item} {r : Progress} (h : Doomed s p) (hcaller : p.caller = .publishing i)
    (hitem : ItemStep s p i s' r) : Doomed s' (p.callerAt r) := by
  obtain ⟨hcounting, -, hchecking, hsending⟩ := h.caller_cases
  cases hitem with
  | refused err herr => exact .returning err rfl
  | passed hlive =>
    have hended := hchecking hcaller
    unfold Publish.hasEnded at hended
    rw [hlive] at hended
    cases hended
  | placed hopen hroom =>
    rw [hsending hcaller] at hopen
    cases hopen
  | failed hclosed => exact .returning _ rfl
  | counted => exact absurd hcaller hcounting

lemma Doomed.step (h : Doomed s p) (hp : p.Sound name) (hdelay : ¬p.Delays name)
    (hstep : PublishStep name s p a s' p') : Doomed s' p' := by
  have habsent : p.delayed = .absent := by
    by_contra hspawned
    exact hdelay (hp.spawned hspawned).2
  cases hstep with
  | invalid hcaller | refused m hcaller => exact .returned _ rfl
  | admitted m hcaller => exact .early (h.hasEnded_of_early (by rw [hcaller]; rfl)) rfl
  | registered m hcaller hmsg hpositive => exact absurd ⟨m, hmsg, hpositive⟩ hdelay
  | started m hcaller =>
    have hearly : p.caller.early = true := by
      rw [hcaller]
      rfl
    exact .checking (hasEnded_begun name m (hp.undated hearly) (h.hasEnded_of_early hearly)) rfl
  | caller i r hcaller s' hitem => exact h.item hcaller hitem
  | returned r hcaller =>
    have hcalm := hp.caller_calm
    have hnil := h.caller_cases.2.1
    rw [hcaller] at hcalm hnil
    cases r with
    | panics => cases hcalm
    | returns err =>
      cases err with
      | none => cases hnil
      | some err => exact .returned err rfl
  | timer hdelayed | fired fires hdelayed | goroutine i r hdelayed | left r hdelayed | abandoned fires err hdelayed =>
    rw [habsent] at hdelayed
    cases hdelayed
  | cancelled =>
    have hended : Publish.hasEnded s.now { p with ctx.callerDone := true } = true :=
      isSome_err_iff.mpr (.inl rfl)
    cases h with
    | early _ hcaller => exact .early hended hcaller
    | checking _ hcaller => exact .checking hended hcaller
    | sending hclosed hcaller => exact .sending hclosed hcaller
    | returning err hcaller => exact .returning err hcaller
    | returned err hcaller => exact .returned err hcaller

/-! ### What becomes of a call -/

def Fails (name : String) (tid ref : Nat) (c : System State Thread) : Prop :=
  ∃ p, c.threads[tid]? = some (.publish p) ∧ p.ref = ref ∧ p.Sound name ∧ ¬p.Delays name ∧ Doomed c.shared p

lemma PublishStep.request (h : PublishStep name s p a s' p') :
    p'.ref = p.ref ∧ (p'.Delays name ↔ p.Delays name) := by
  cases h with
  | caller i r hcaller s' hitem | goroutine i r hdelayed s' hitem =>
    cases r with
    | _ => exact ⟨rfl, Iff.rfl⟩
  | _ => exact ⟨rfl, Iff.rfl⟩

lemma fails_next {d : System State Thread} {m : Move Request Action} (hc : Fails name tid ref c)
    (h : (program name).next c m = some d) : Fails name tid ref d := by
  obtain ⟨p, hp, href, hsound, hdelay, hdoomed⟩ := hc
  obtain ⟨hlt, -⟩ := List.getElem?_eq_some_iff.mp hp
  have hlt' : tid < d.threads.length := Nat.lt_of_lt_of_le hlt (Program.length_le_of_next h)
  rcases Program.thread_cases h (List.getElem?_eq_getElem hlt') with ⟨hsame, -⟩ | ⟨hnone, -⟩ |
    ⟨l, a, rfl, hl, hstep⟩ | ⟨i, j, l, k, l₁, k₁, rfl, hmeet, -⟩
  · rw [hp] at hsame
    refine ⟨p, ?_, href, hsound, hdelay, hdoomed.later (later_next h)⟩
    rw [List.getElem?_eq_getElem hlt', ← hsame]
  · rw [hp] at hnone
    cases hnone
  · cases hp.symm.trans hl
    obtain ⟨p', hp', rfl | hpublish⟩ := (threadStep_of_step hstep).publish_cases
    · exact ⟨p', (List.getElem?_eq_getElem hlt').trans (congrArg some hp'), href, hsound, hdelay,
        hdoomed.later (later_next h)⟩
    · obtain ⟨href', hdelays⟩ := hpublish.request
      exact ⟨p', (List.getElem?_eq_getElem hlt').trans (congrArg some hp'), href'.trans href,
        hsound.step hpublish, fun hd' => hdelay (hdelays.mp hd'), hdoomed.step hsound hdelay hpublish⟩
  · cases hmeet

def EndsInError (name : String) (c : System State Thread) (tid : Nat) : Prop :=
  ∃ n d q err, run (program name).next c (List.replicate n (.step tid .proceed)) = some d ∧
    d.threads[tid]? = some (.publish q) ∧ q.caller = .returned (.returns (some err))

def Caller.rank : Caller → Nat
  | entered => 5
  | admitted => 4
  | publishing .checking => 3
  | publishing _ => 2
  | returning _ => 1
  | returned _ => 0

lemma Doomed.stepCaller (h : Doomed s p) (hp : p.Sound name) (hdelay : ¬p.Delays name)
    (hlive : p.caller.rank ≠ 0) :
    ∃ s' p', stepCaller name s p = some (s', p') ∧ p'.caller.rank < p.caller.rank := by
  obtain ⟨hcounting, -, hchecking, hsending⟩ := h.caller_cases
  unfold MemoryTraffic.stepCaller
  cases hcaller : p.caller with
  | entered =>
    cases p.msg with
    | none => exact ⟨_, _, rfl, by simp [Caller.rank]⟩
    | some m =>
      cases hclosed : s.closed with
      | true => exact ⟨_, _, rfl, by simp [Caller.rank]⟩
      | false => exact ⟨_, _, rfl, by simp [Caller.rank]⟩
  | admitted =>
    obtain ⟨m, hmsg⟩ := hp.admitted hcaller
    have hzero : ¬(p.prepared name m).clone.delay > 0 := fun hpositive => hdelay ⟨m, hmsg, hpositive⟩
    rw [hmsg]
    exact ⟨_, _, if_neg hzero, by simp [Caller.rank]⟩
  | publishing i =>
    cases i with
    | checking =>
      obtain ⟨err, herr⟩ := Option.isSome_iff_exists.mp (hchecking hcaller)
      simp only [stepItem, herr, Option.map_some]
      exact ⟨_, _, rfl, by simp [Caller.rank, Publish.callerAt]⟩
    | sending =>
      have hsend : sendMessage s.ch (p.ref, p.item) = .yields (s.ch, false) := by
        rcases sendMessage_cases s.ch (p.ref, p.item) with ⟨-, hsend⟩ | ⟨hopen, -⟩ | ⟨hopen, -⟩
        · exact hsend
        · rw [hsending hcaller] at hopen
          cases hopen
        · rw [hsending hcaller] at hopen
          cases hopen
      simp only [stepItem, hsend, Option.map_some]
      exact ⟨_, _, rfl, by simp [Caller.rank, Publish.callerAt]⟩
    | counting => exact absurd hcaller hcounting
  | returning r => exact ⟨_, _, rfl, Nat.one_pos⟩
  | returned r =>
    rw [hcaller] at hlive
    exact absurd rfl hlive

lemma next_proceed (hl : c.threads[tid]? = some (.publish p))
    (h : stepCaller name c.shared p = some (s', p')) :
    (program name).next c (.step tid .proceed) = some ⟨s', c.threads.set tid (.publish p')⟩ := by
  simp only [Program.next, hl, Option.bind_some]
  simp only [program, step, stepThread, stepPublish, h, Option.map_some]

lemma endsInError_of_fails (h : Fails name tid ref c) :
    EndsInError name c tid := by
  obtain ⟨p, hp, href, hsound, hdelay, hdoomed⟩ := h
  -- on the distance of the caller from its return
  induction hrank : p.caller.rank using Nat.strong_induction_on generalizing c p with
  | _ n ih =>
    by_cases hlive : p.caller.rank = 0
    · cases hcaller : p.caller with
      | returned r =>
        cases hdoomed with
        | returned err hfailed => exact ⟨0, c, p, err, rfl, hp, hfailed⟩
        | early _ h | checking _ h | sending _ h | returning _ h =>
          rw [hcaller] at h
          cases h
      | publishing i =>
        rw [hcaller] at hlive
        cases i <;> cases hlive
      | _ =>
        rw [hcaller] at hlive
        cases hlive
    · obtain ⟨s', p', hstep, hlt⟩ := hdoomed.stepCaller hsound hdelay hlive
      have hpublish := publishStep_of_stepCaller hstep
      have hnext := next_proceed hp hstep
      obtain ⟨htid, -⟩ := List.getElem?_eq_some_iff.mp hp
      obtain ⟨href', hdelays⟩ := hpublish.request
      obtain ⟨k, d, q, err, hrun, hq, hfailed⟩ := ih p'.caller.rank (hrank ▸ hlt)
        (c := ⟨s', c.threads.set tid (.publish p')⟩) p'
        (List.getElem?_set_self htid) (href'.trans href) (hsound.step hpublish)
        (fun hd' => hdelay (hdelays.mp hd')) (hdoomed.step hsound hdelay hpublish) rfl
      refine ⟨k + 1, d, q, err, ?_, hq, hfailed⟩
      rw [List.replicate_succ, run, hnext]
      exact hrun

/-! ### What the account says -/

lemma Doomed.not_placed (h : Doomed s p) : (p.caller.mark p.ref).placed = false := by
  cases h with
  | early hended hcaller =>
    cases hp : p.caller with
    | entered => rfl
    | admitted => rfl
    | _ =>
      rw [hp] at hcaller
      cases hcaller
  | checking hended hcaller | sending hclosed hcaller | returning err hcaller | returned err hcaller =>
    rw [hcaller]
    rfl

lemma doomed_of_ended (hp : p.Sound name) (hended : p.hasEnded s.now = true)
    (hunplaced : (p.caller.mark p.ref).placed = false)
    (hwaiting : ¬(p.caller = .publishing .sending ∧ s.ch.closed = false)) : Doomed s p := by
  have hcalm := hp.caller_calm
  cases hcaller : p.caller with
  | entered => exact .early hended (by rw [hcaller]; rfl)
  | admitted => exact .early hended (by rw [hcaller]; rfl)
  | publishing i =>
    cases i with
    | checking => exact .checking hended hcaller
    | sending =>
      refine .sending ?_ hcaller
      by_contra hopen
      exact hwaiting ⟨hcaller, Bool.eq_false_iff.mpr hopen⟩
    | counting =>
      rw [hcaller] at hunplaced
      cases hunplaced
  | returning r =>
    rw [hcaller] at hunplaced hcalm
    cases r with
    | panics => cases hcalm
    | returns err =>
      cases err with
      | none => cases hunplaced
      | some err => exact .returning err hcaller
  | returned r =>
    rw [hcaller] at hunplaced hcalm
    cases r with
    | panics => cases hcalm
    | returns err =>
      cases err with
      | none => cases hunplaced
      | some err => exact .returned err hcaller

/-- However the run goes on, the message stays off the channel, and the call returns an error. -/
def NotEnqueued (name : String) (c : System State Thread) (tid ref : Nat) : Prop :=
  ∀ ms d, run (program name).next c ms = some d → ref ∉ d.shared.placements ∧ EndsInError name d tid

lemma notEnqueued_of_fails {bufferSize : Int} {ms : List (Move Request Action)} (h : (program name).Runs (newMemoryQueue bufferSize) ms c) (hfails : Fails name tid ref c) :
    NotEnqueued name c tid ref := by
  intro more d hmore
  have hd : Fails name tid ref d := run_invariant (fun _ _ _ hc hnext => fails_next hc hnext) hfails hmore
  refine ⟨?_, endsInError_of_fails hd⟩
  obtain ⟨p, hp, rfl, -, hdelay, hdoomed⟩ := hd
  have hin : .publish p ∈ (d.threads : Multiset Thread) := Multiset.mem_coe.mpr (List.mem_of_getElem? hp)
  rw [(accounted_run (run_append_of h hmore)).1.placed_iff hin hdelay, hdoomed.not_placed]
  exact Bool.false_ne_true

lemma not_notEnqueued_of_waiting (hp : c.threads[tid]? = some (.publish p))
    (hcaller : p.caller = .publishing .sending) (hopen : c.shared.ch.closed = false) :
    ¬NotEnqueued name c tid p.ref := by
  intro h
  rcases sendMessage_cases c.shared.ch (p.ref, p.item) with ⟨hclosed, -⟩ | ⟨-, -, hsend⟩ | ⟨-, -, hsend⟩
  · rw [hopen] at hclosed
    cases hclosed
  · have hstep : stepCaller name c.shared p =
        some (c.shared.place p, { p with caller := .publishing .counting }) := by
      simp only [stepCaller, hcaller, stepItem, hsend, Option.map_some]
      rfl
    have hrun : run (program name).next c [.step tid .proceed] = some ⟨c.shared.place p,
        c.threads.set tid (.publish { p with caller := .publishing .counting })⟩ := by
      rw [run, next_proceed hp hstep]
      rfl
    exact (h _ _ hrun).1 (List.mem_append_right _ (List.mem_singleton_self p.ref))
  · obtain ⟨-, n, d, q, err, hrun, hq, hfailed⟩ := h [] c rfl
    have hblocked : (program name).next c (.step tid .proceed) = none := by
      simp only [Program.next, hp, Option.bind_some]
      simp only [program, step, stepThread, stepPublish, stepCaller, hcaller, stepItem, hsend, Option.map_none]
    cases n with
    | zero =>
      cases hrun
      cases hp.symm.trans hq
      rw [hcaller] at hfailed
      cases hfailed
    | succ n =>
      rw [List.replicate_succ, run, hblocked] at hrun
      cases hrun

end MailBaby.MemoryTraffic

namespace MailBaby.Proofs

open Lib MemoryTraffic

/-- When the context of a call without a delay has ended before its message is on the channel, the message
stays off the channel and the call returns an error exactly if it does not wait for room by then. -/
theorem ended_publish_iff {name : String} {bufferSize : Int} {ms : List (Move Request Action)}
    {c : System State Thread} {tid : Nat} {p : MemoryTraffic.Publish}
    (h : (program name).Runs (newMemoryQueue bufferSize) ms c) (hp : c.threads[tid]? = some (.publish p))
    (hdelay : ¬p.Delays name) (hended : p.hasEnded c.shared.now = true) (hunplaced : p.ref ∉ c.shared.placements) :
    NotEnqueued name c tid p.ref ↔ ¬(p.caller = .publishing .sending ∧ c.shared.ch.closed = false) := by
  have hin : .publish p ∈ (c.threads : Multiset Thread) := Multiset.mem_coe.mpr (List.mem_of_getElem? hp)
  have haccount := (accounted_run h).1
  constructor
  · rintro hnot ⟨hcaller, hopen⟩
    exact not_notEnqueued_of_waiting hp hcaller hopen hnot
  · intro hwaiting
    have hsound : p.Sound name := haccount.sound _ hin
    rw [haccount.placed_iff hin hdelay, Bool.not_eq_true] at hunplaced
    exact notEnqueued_of_fails h ⟨p, hp, rfl, hsound, hdelay, doomed_of_ended hsound hended hunplaced hwaiting⟩

def cancelledEarly : List (Move Request Action) := [.call (.publish (some {}) [] ∅), .step 0 .cancel]

theorem ended_publish_cancelledEarly :
    ∃ c p, (program "mail").Runs (newMemoryQueue 1) cancelledEarly c ∧ c.threads[0]? = some (.publish p) ∧
      p.hasEnded c.shared.now = true ∧ NotEnqueued "mail" c 0 p.ref := by
  obtain ⟨c, p, hrun, hp, hdelay, hended, hunplaced, hcaller⟩ : ∃ c p,
      (program "mail").Runs (newMemoryQueue 1) cancelledEarly c ∧ c.threads[0]? = some (.publish p) ∧
      ¬p.Delays "mail" ∧ p.hasEnded c.shared.now = true ∧ p.ref ∉ c.shared.placements ∧ p.caller = .entered := by
    refine ⟨_, _, rfl, rfl, ?_, rfl, List.not_mem_nil, rfl⟩
    rintro ⟨m, hmsg, hdelay⟩
    cases hmsg
    exact absurd hdelay (by decide)
  refine ⟨c, p, hrun, hp, hended, (ended_publish_iff hrun hp hdelay hended hunplaced).mpr ?_⟩
  rw [hcaller]
  exact fun hwaiting => Caller.noConfusion hwaiting.1

def cancelledWaiting : List (Move Request Action) :=
  .call (.publish (some {}) [] ∅) :: List.replicate 6 (.step 0 .proceed) ++
    .call (.publish (some {}) [] ∅) :: List.replicate 3 (.step 1 .proceed) ++ [.step 1 .cancel]

/-- Room is made for a call whose context has ended: its message is placed, and it returns nil. -/
theorem ended_publish_enqueued :
    ∃ c p d q, (program "mail").Runs (newMemoryQueue 1) cancelledWaiting c ∧
      c.threads[1]? = some (.publish p) ∧ ¬p.Delays "mail" ∧ p.hasEnded c.shared.now = true ∧
      p.ref ∉ c.shared.placements ∧
      run (program "mail").next c (.call (.worker false) :: .step 2 .proceed ::
        List.replicate 3 (.step 1 .proceed)) = some d ∧
      d.threads[1]? = some (.publish q) ∧ q.caller = .returned (.returns none) ∧
      p.ref ∈ d.shared.placements := by
  refine ⟨_, _, _, _, rfl, rfl, ?_, rfl, ?_, rfl, rfl, rfl, ?_⟩
  · rintro ⟨m, hmsg, hdelay⟩
    cases hmsg
    exact absurd hdelay (by decide)
  · exact fun hmem => absurd hmem (by decide)
  · decide

end MailBaby.Proofs
