import MailBaby.Proofs.Conservation

/-!
# Delayed publishes and `Close`

`Close` waits until no delayed publish is registered, and closes the channel afterwards.
-/

namespace MailBaby.MemoryTraffic

open Lib
open MemoryQueue (Context)

variable {name : String} {s s' : State} {p p' : Publish}

/-! ### Registered publishes -/

def Delayed.pending : Delayed → Bool
  | absent => false
  | ended _ => false
  | _ => true

def Thread.pending : Thread → Bool
  | publish p => p.delayed.pending
  | _ => false

lemma Thread.pending_of_serves {l : Thread} (h : l.serves = true) : l.pending = false := by
  cases l with
  | publish p => cases h
  | _ => rfl

lemma PublishStep.delayedWg {a : Action} (hp : p.Sound name) (h : PublishStep name s p a s' p') :
    s'.delayedWg = s.delayedWg + ((p'.delayed.pending.toNat : Int) - p.delayed.pending.toNat) := by
  cases h with
  | registered m hcaller =>
    have habsent := hp.absent (by rw [hcaller]; rfl)
    rw [habsent]
    rfl
  | caller i r hcaller s' hitem =>
    have hsame : (p.callerAt r).delayed = p.delayed := by
      cases r with
      | _ => rfl
    rw [hitem.frame.2, hsame]
    omega
  | goroutine i r hdelayed s' hitem =>
    have hsame : (p.goroutineAt r).delayed.pending = true := by
      cases r with
      | _ => rfl
    rw [hitem.frame.2, hsame, hdelayed]
    change s.delayedWg = s.delayedWg + (((true : Bool).toNat : Int) - (true : Bool).toNat)
    omega
  | left r hdelayed =>
    rw [hdelayed]
    rfl
  | timer hdelayed | fired fires hdelayed | abandoned fires err hdelayed =>
    rw [hdelayed]
    change s.delayedWg = s.delayedWg + (((true : Bool).toNat : Int) - (true : Bool).toNat)
    omega
  | _ =>
    change s.delayedWg = s.delayedWg + ((p.delayed.pending.toNat : Int) - p.delayed.pending.toNat)
    omega

lemma CloseStep.delayedWg {c c' : Close} {a : Action} (h : CloseStep s c a s' c') :
    s'.delayedWg = s.delayedWg := by
  cases h with
  | _ => rfl

lemma ThreadStep.delayedWg {l l' : Thread} {a : Action} (hl : l.Sound name) (h : ThreadStep name s l a s' l') :
    s'.delayedWg = s.delayedWg + ((l'.pending.toNat : Int) - l.pending.toNat) := by
  cases h with
  | tick l d =>
    change s.delayedWg = _
    omega
  | publish p p' a s' h => exact h.delayedWg hl
  | serve l l' a s' hserves hserves' h =>
    rw [h.frame.2, Thread.pending_of_serves hserves, Thread.pending_of_serves hserves']
    omega
  | close c c' a s' h =>
    rw [h.delayedWg]
    change s.delayedWg = s.delayedWg + (((false : Bool).toNat : Int) - (false : Bool).toNat)
    omega

/-! ### Runs without timeouts and cancellations -/

/-- The call has the context it was given, and what its goroutine was to send is on the channel once the
goroutine leaves. -/
structure Publish.Undisturbed (p : Publish) : Prop where
  ctx : p.ctx = {}
  untimed : (publishOptions p.opts).timeout ≤ 0
  delivered : ∀ r, p.delayed = .leaving r ∨ p.delayed = .ended r → r.isNil = true

lemma Publish.Undisturbed.begun (h : p.Undisturbed) (name : String) (m : Message) : (p.begun name s m).ctx = {} := by
  change p.ctx.withTimeout s.now (publishOptions p.opts).timeout = {}
  rw [Context.withTimeout, if_neg (Int.not_lt.mpr h.untimed), h.ctx]

lemma Publish.Undisturbed.step {a : Action} (h : p.Undisturbed) (hcancel : a ≠ .cancel)
    (hopen : p.delayed.pending = true → s.ch.closed = false) (hstep : PublishStep name s p a s' p') :
    p'.Undisturbed := by
  have herr : p.ctx.err s.now = none := by
    rw [h.ctx]
    rfl
  cases hstep with
  | invalid | refused | admitted => exact ⟨h.ctx, h.untimed, h.delivered⟩
  | registered m =>
    refine ⟨h.begun name m, h.untimed, fun r hr => ?_⟩
    rcases hr with hr | hr <;> cases hr
  | started m => exact ⟨h.begun name m, h.untimed, h.delivered⟩
  | caller i r hcaller s' hitem =>
    cases r with
    | _ => exact ⟨h.ctx, h.untimed, h.delivered⟩
  | returned r hcaller =>
    refine ⟨?_, h.untimed, h.delivered⟩
    simp only [h.ctx]
    rfl
  | timer hdelayed | fired fires hdelayed =>
    refine ⟨h.ctx, h.untimed, fun r hr => ?_⟩
    rcases hr with hr | hr <;> cases hr
  | goroutine i r hdelayed s' hitem =>
    refine ⟨?_, ?_, ?_⟩
    · cases r with
      | _ => exact h.ctx
    · cases r with
      | _ => exact h.untimed
    · intro o ho
      cases hitem with
      | refused err hrefused =>
        rw [herr] at hrefused
        cases hrefused
      | failed hclosed =>
        rw [hopen (by rw [hdelayed]; rfl)] at hclosed
        cases hclosed
      | counted =>
        rcases ho with ho | ho
        · cases ho
          rfl
        · cases ho
      | passed | placed =>
        rcases ho with ho | ho <;> cases ho
  | left r hdelayed =>
    refine ⟨h.ctx, h.untimed, fun o ho => ?_⟩
    rcases ho with ho | ho
    · cases ho
    · cases ho
      exact h.delivered r (.inl hdelayed)
  | abandoned fires err hdelayed hrefused =>
    rw [herr] at hrefused
    cases hrefused
  | cancelled => exact absurd rfl hcancel

def Thread.closing : Thread → Bool
  | close .closingChannel => true
  | _ => false

lemma Thread.closing_of_serves {l : Thread} (h : l.serves = true) : l.closing = false := by
  cases l with
  | close c => cases h
  | _ => rfl

def Emptied (s : State) (ls : Multiset Thread) : Prop := s.closeOnce = .done ∨ ∃ l ∈ ls, l.closing = true

def Thread.Undisturbed : Thread → Prop
  | publish p => p.Undisturbed
  | _ => True

lemma Thread.undisturbed_of_serves {l : Thread} (h : l.serves = true) : l.Undisturbed := by
  cases l with
  | publish p => cases h
  | _ => trivial

structure Waited (name : String) (s : State) (ls : Multiset Thread) : Prop where
  sound : ∀ l ∈ ls, l.Sound name
  undisturbed : ∀ l ∈ ls, l.Undisturbed
  wait : s.delayedWg = count Thread.pending ls
  once : s.ch.closed = true → s.closeOnce = .done
  idle : Emptied s ls → ∀ l ∈ ls, l.pending = false

def Thread.registers (name : String) : Thread → Bool
  | publish p => decide (p.caller = .admitted) && p.msg.any fun m => decide ((p.prepared name m).delay > 0)
  | _ => false

lemma emptied_cons {l : Thread} {ls : Multiset Thread} (hl : l.closing = false) :
    Emptied s (l ::ₘ ls) ↔ Emptied s ls := by
  unfold Emptied
  apply or_congr_right
  constructor
  · rintro ⟨k, hk, hclosing⟩
    rcases Multiset.mem_cons.mp hk with rfl | hk
    · rw [hl] at hclosing
      cases hclosing
    · exact ⟨k, hk, hclosing⟩
  · rintro ⟨k, hk, hclosing⟩
    exact ⟨k, Multiset.mem_cons_of_mem hk, hclosing⟩

lemma PublishStep.pending {a : Action} (h : PublishStep name s p a s' p') (hp : p.delayed.pending = false)
    (hregisters : a = .proceed → (Thread.publish p).registers name = false) : p'.delayed.pending = false := by
  cases h with
  | registered m hcaller hmsg hdelay =>
    have hnot := hregisters rfl
    simp only [Thread.registers, hcaller, hmsg, Option.any_some, decide_true, Bool.true_and,
      decide_eq_false_iff_not] at hnot
    exact absurd hdelay hnot
  | caller i r hcaller s' hitem =>
    cases r with
    | _ => exact hp
  | timer hdelayed | fired fires hdelayed | goroutine i r hdelayed | abandoned fires err hdelayed =>
    rw [hdelayed] at hp
    cases hp
  | left r hdelayed => rfl
  | _ => exact hp

section Step

variable {ls : Multiset Thread} {l l' : Thread} {a : Action}

lemma Waited.frame (h : Waited name s (l ::ₘ ls)) (hstep : ThreadStep name s l a s' l') (hframe : Frame s s')
    (hclosing : l.closing = false) (hclosing' : l'.closing = false) (hundisturbed : l'.Undisturbed)
    (hpending : Emptied s ls → l'.pending = false) : Waited name s' (l' ::ₘ ls) := by
  have hsound := Multiset.forall_mem_cons.mp h.sound
  have hrest := Multiset.forall_mem_cons.mp h.undisturbed
  have hemptied : Emptied s' (l' ::ₘ ls) → Emptied s ls := by
    rw [emptied_cons hclosing']
    exact Or.imp_left fun hdone => hframe.closeOnce.symm.trans hdone
  constructor
  case sound => exact Multiset.forall_mem_cons.mpr ⟨hstep.sound hsound.1, hsound.2⟩
  case undisturbed => exact Multiset.forall_mem_cons.mpr ⟨hundisturbed, hrest.2⟩
  case wait =>
    have hwait := h.wait
    rw [count_cons] at hwait ⊢
    rw [hstep.delayedWg hsound.1, hwait]
    push_cast
    omega
  case once =>
    rw [hframe.channelClosed, hframe.closeOnce]
    exact h.once
  case idle =>
    intro hempty
    have hidle := Multiset.forall_mem_cons.mp (h.idle ((emptied_cons hclosing).mpr (hemptied hempty)))
    exact Multiset.forall_mem_cons.mpr ⟨hpending (hemptied hempty), hidle.2⟩

lemma Waited.publish (h : Waited name s (.publish p ::ₘ ls)) (hstep : PublishStep name s p a s' p')
    (hcancel : a ≠ .cancel) (hlate : a = .proceed → (Thread.publish p).registers name = true → ¬Emptied s ls) :
    Waited name s' (.publish p' ::ₘ ls) := by
  have hundisturbed : p.Undisturbed := (Multiset.forall_mem_cons.mp h.undisturbed).1
  have hidle : Emptied s ls → p.delayed.pending = false := fun hempty =>
    h.idle ((emptied_cons rfl).mpr hempty) _ (Multiset.mem_cons_self _ _)
  have hopen : p.delayed.pending = true → s.ch.closed = false := by
    intro hpending
    by_contra hclosed
    rw [hidle (.inl (h.once (Bool.not_eq_false _ ▸ hclosed)))] at hpending
    cases hpending
  refine h.frame (.publish p p' a s' hstep) hstep.frame rfl rfl (hundisturbed.step hcancel hopen hstep) ?_
  intro hempty
  refine hstep.pending (hidle hempty) fun ha => ?_
  by_contra hregisters
  exact hlate ha (Bool.not_eq_false _ ▸ hregisters) hempty

lemma Waited.serve (h : Waited name s (l ::ₘ ls)) (hl : l.serves = true) (hl' : l'.serves = true)
    (hstep : ServiceStep s l s' l') : Waited name s' (l' ::ₘ ls) :=
  h.frame (.serve l l' .proceed s' hl hl' hstep) hstep.frame.1 (Thread.closing_of_serves hl)
    (Thread.closing_of_serves hl') (Thread.undisturbed_of_serves hl') fun _ => Thread.pending_of_serves hl'

lemma Waited.close {c c' : Close} (h : Waited name s (.close c ::ₘ ls)) (hstep : CloseStep s c a s' c')
    (hgiveUp : a ≠ .giveUp) : Waited name s' (.close c' ::ₘ ls) := by
  have hsound := (Multiset.forall_mem_cons.mp h.sound).2
  have hundisturbed := (Multiset.forall_mem_cons.mp h.undisturbed).2
  have hwait : s'.delayedWg = count Thread.pending (.close c' ::ₘ ls) := by
    rw [hstep.delayedWg, h.wait, count_cons, count_cons]
    rfl
  have hidle : Emptied s (.close c ::ₘ ls) → ∀ l ∈ Thread.close c' ::ₘ ls, l.pending = false := fun hempty =>
    Multiset.forall_mem_cons.mpr ⟨rfl, (Multiset.forall_mem_cons.mp (h.idle hempty)).2⟩
  refine ⟨Multiset.forall_mem_cons.mpr ⟨trivial, hsound⟩, Multiset.forall_mem_cons.mpr ⟨trivial, hundisturbed⟩,
    hwait, ?_, ?_⟩
  · cases hstep with
    | begun honce =>
      intro hclosed
      rw [h.once hclosed] at honce
      cases honce
    | closed hopen => exact fun _ => rfl
    | panicked hclosed => exact fun _ => rfl
    | _ => exact h.once
  · cases hstep with
    | begun honce =>
      intro hempty
      rw [emptied_cons rfl] at hempty
      exact hidle ((emptied_cons rfl).mpr (hempty.imp_left fun hdone => by cases hdone))
    | again honce => exact fun _ => hidle (.inl honce)
    | marked => exact fun hempty => hidle ((emptied_cons rfl).mpr ((emptied_cons rfl).mp hempty))
    | drained hzero => exact fun hempty => hidle ((emptied_cons rfl).mpr ((emptied_cons rfl).mp hempty))
    | waited hzero =>
      intro _
      rw [hzero] at hwait
      exact count_eq_zero.mp (Int.ofNat_eq_zero.mp hwait.symm)
    | closed hopen => exact fun _ => hidle (.inr ⟨_, Multiset.mem_cons_self _ _, rfl⟩)
    | panicked hclosed => exact fun _ => hidle (.inr ⟨_, Multiset.mem_cons_self _ _, rfl⟩)
    | drainTimeout => exact absurd rfl hgiveUp
    | waitTimeout => exact absurd rfl hgiveUp

lemma Waited.tick (h : Waited name s ls) (d : Nat) : Waited name { s with now := s.now + d } ls :=
  ⟨h.sound, h.undisturbed, h.wait, h.once, h.idle⟩

lemma Waited.call {i : Request} (h : Waited name s ls) (hcall : CallStep s i s' l)
    (huntimed : ∀ msg opts trace, i = .publish msg opts trace → (publishOptions opts).timeout ≤ 0) :
    Waited name s' (l ::ₘ ls) := by
  have hpending : l.pending = false := by
    cases hcall with
    | publish msg opts trace => rfl
    | serve i l hl hheld => exact Thread.pending_of_serves hl
    | close => rfl
  have hclosing : l.closing = false := by
    cases hcall with
    | publish msg opts trace => rfl
    | serve i l hl hheld => exact Thread.closing_of_serves hl
    | close => rfl
  have hundisturbed : l.Undisturbed := by
    cases hcall with
    | publish msg opts trace =>
      refine ⟨rfl, huntimed msg opts trace rfl, fun r hr => ?_⟩
      rcases hr with hr | hr <;> cases hr
    | serve i l hl hheld => exact Thread.undisturbed_of_serves hl
    | close => trivial
  have hsame : s'.delayedWg = s.delayedWg ∧ s'.ch = s.ch ∧ s'.closeOnce = s.closeOnce := by
    cases hcall with
    | _ => exact ⟨rfl, rfl, rfl⟩
  constructor
  case sound => exact Multiset.forall_mem_cons.mpr ⟨hcall.sound, h.sound⟩
  case undisturbed => exact Multiset.forall_mem_cons.mpr ⟨hundisturbed, h.undisturbed⟩
  case wait => rw [hsame.1, h.wait, count_cons_of_false hpending]
  case once =>
    rw [hsame.2.1, hsame.2.2]
    exact h.once
  case idle =>
    intro hempty
    rw [emptied_cons hclosing] at hempty
    exact Multiset.forall_mem_cons.mpr
      ⟨hpending, h.idle (hempty.imp_left fun hdone => hsame.2.2.symm.trans hdone)⟩

end Step

/-! ### Runs -/

def Thread.isPublish : Thread → Bool
  | publish _ => true
  | _ => false

/-- A drain timeout expires, a caller cancels its publish, or sets a timeout for it. -/
def disturbs (c : System State Thread) : Move Request Action → Bool
  | .call (.publish _ opts _) => decide ((publishOptions opts).timeout > 0)
  | .step _ .giveUp => true
  | .step tid .cancel => c.threads[tid]?.any Thread.isPublish
  | _ => false

/-- A delayed publish is registered when `Close` has stopped waiting. -/
def registersLate (name : String) (c : System State Thread) : Move Request Action → Bool
  | .step tid .proceed =>
    c.threads[tid]?.any (Thread.registers name) &&
      (decide (c.shared.closeOnce = .done) || c.threads.any Thread.closing)
  | _ => false

lemma Waited.next {c d : System State Thread} {m : Move Request Action} (h : Waited name c.shared c.threads)
    (hquiet : disturbs c m = false) (hlate : registersLate name c m = false)
    (hnext : (program name).next c m = some d) : Waited name d.shared d.threads := by
  rcases Program.next_cases hnext with ⟨i, s, l, rfl, hcall, rfl, hd⟩ |
    ⟨tid, a, l, s, l', rest, rfl, hl, hstep, hrest, rfl, hd⟩ | ⟨tid, tid', l, k, s, l', k', rest, -, hmeet, -⟩
  · rw [hd]
    refine h.call (callStep_of_request hcall) ?_
    rintro msg opts trace rfl
    exact Int.not_lt.mp (of_decide_eq_false hquiet)
  · rw [hd]
    rw [hrest] at h
    have hemptied : Emptied c.shared rest → c.shared.closeOnce = .done ∨ c.threads.any Thread.closing = true := by
      refine Or.imp_right ?_
      rintro ⟨k, hk, hclosing⟩
      have hmem : k ∈ (c.threads : Multiset Thread) := by
        rw [hrest]
        exact Multiset.mem_cons_of_mem hk
      exact List.any_eq_true.mpr ⟨k, Multiset.mem_coe.mp hmem, hclosing⟩
    have hgiveUp : a ≠ .giveUp := by
      rintro rfl
      cases hquiet
    generalize d.shared = t at hstep
    cases threadStep_of_step hstep with
    | tick l n => exact h.tick n
    | publish p p' a t hpublish =>
      refine h.publish hpublish ?_ ?_
      · rintro rfl
        simp only [disturbs, hl] at hquiet
        cases hquiet
      · rintro rfl hregisters hempty
        simp only [registersLate, hl, Option.any_some, hregisters, Bool.true_and] at hlate
        rcases hemptied hempty with hdone | hclosing
        · rw [hdone] at hlate
          cases hlate
        · rw [hclosing, Bool.or_true] at hlate
          cases hlate
    | serve l l' a t hserves hserves' hserve => exact h.serve hserves hserves' hserve
    | close k k' a t hclose => exact h.close hclose hgiveUp
  · cases hmeet

/-- At some point of the run the message was on the channel, and the channel was open. -/
def PlacedWhileOpen (name : String) (start : State) (ms : List (Move Request Action)) (ref : Nat) : Prop :=
  ∃ before after b, ms = before ++ after ∧ (program name).Runs start before b ∧ b.shared.ch.closed = false ∧
    ref ∈ b.shared.placements

lemma ThreadStep.placements {l l' : Thread} {a : Action} (h : ThreadStep name s l a s' l') :
    s'.placements = s.placements ∨ s'.ch.closed = false := by
  cases h with
  | tick l d => exact .inl rfl
  | publish p p' a s' h => exact h.frame.placements.imp_right h.frame.channelClosed.trans
  | serve l l' a s' hl hl' h => exact h.frame.1.placements.imp_right h.frame.1.channelClosed.trans
  | close c c' a s' h =>
    cases h with
    | _ => exact .inl rfl

lemma placements_next {c d : System State Thread} {m : Move Request Action}
    (h : (program name).next c m = some d) :
    d.shared.placements = c.shared.placements ∨ d.shared.ch.closed = false := by
  rcases Program.next_cases h with ⟨i, s, l, -, hcall, rfl, -⟩ | ⟨tid, a, l, s, l', rest, -, -, hstep, -, rfl, -⟩ |
    ⟨tid, tid', l, k, s, l', k', rest, -, hmeet, -⟩
  · generalize d.shared = t at hcall
    cases callStep_of_request hcall with
    | _ => exact .inl rfl
  · exact (threadStep_of_step hstep).placements
  · cases hmeet

lemma placedWhileOpen {bufferSize : Int} {ms : List (Move Request Action)} {c : System State Thread}
    (h : (program name).Runs (newMemoryQueue bufferSize) ms c) {ref : Nat} (hplaced : ref ∈ c.shared.placements) :
    PlacedWhileOpen name (newMemoryQueue bufferSize) ms ref := by
  apply Program.runs_induction
    (I := fun ms c => ref ∈ c.shared.placements → PlacedWhileOpen name (newMemoryQueue bufferSize) ms ref) _ _ h hplaced
  · exact fun hmem => absurd hmem List.not_mem_nil
  · intro ms c m d hrun ih hnext hmem
    rcases placements_next hnext with hsame | hopen
    · rw [hsame] at hmem
      obtain ⟨before, after, b, rfl, hb⟩ := ih hmem
      exact ⟨before, after ++ [m], b, by simp, hb⟩
    · exact ⟨ms ++ [m], [], d, by simp, Program.runs_snoc.mpr ⟨c, hrun, hnext⟩, hopen, hmem⟩

end MailBaby.MemoryTraffic

namespace MailBaby.Proofs

open Lib MemoryTraffic

/-- In a run without timeouts and cancellations in which no delayed publish is registered once `Close` has
stopped waiting, a message with a delay whose publish returned nil was placed before the channel was closed. -/
theorem close_waits_for_delayed {name : String} {bufferSize : Int} {ms : List (Move Request Action)}
    {c : System State Thread} {p : MemoryTraffic.Publish}
    (h : (program name).Runs (newMemoryQueue bufferSize) ms c)
    (hquiet : Along (program name).next (fun c m => disturbs c m = false)
      { shared := newMemoryQueue bufferSize } ms)
    (hlate : Along (program name).next (fun c m => registersLate name c m = false)
      { shared := newMemoryQueue bufferSize } ms)
    (hp : .publish p ∈ c.threads) (hdelay : p.Delays name) (hnil : p.caller = .returned (.returns none))
    (hclosed : c.shared.ch.closed = true) : PlacedWhileOpen name (newMemoryQueue bufferSize) ms p.ref := by
  have hin : .publish p ∈ (c.threads : Multiset Thread) := Multiset.mem_coe.mpr hp
  have hstart : Waited name (newMemoryQueue bufferSize) (([] : List Thread) : Multiset Thread) :=
    ⟨fun l hl => absurd hl (Multiset.notMem_zero l), fun l hl => absurd hl (Multiset.notMem_zero l), rfl,
      fun hf => absurd hf Bool.false_ne_true, fun _ l hl => absurd hl (Multiset.notMem_zero l)⟩
  have hwaited : Waited name c.shared c.threads :=
    run_invariant_along (I := fun c => Waited name c.shared c.threads)
      (fun _ _ _ hs hok ht => hs.next hok.1 hok.2 ht) hstart (hquiet.and hlate) h
  have hsound : p.Sound name := hwaited.sound _ hin
  have hundisturbed : p.Undisturbed := hwaited.undisturbed _ hin
  have hidle : p.delayed.pending = false := hwaited.idle (.inl (hwaited.once hclosed)) _ hin
  -- the goroutine has ended, and with its message placed
  have hspawned : p.delayed ≠ .absent := fun habsent =>
    hsound.immediate habsent (by rw [hnil]; rfl) hdelay
  have hmark : p.mark.placed = true := by
    rw [Publish.mark_of_spawned hspawned]
    cases hdelayed : p.delayed with
    | absent => exact absurd hdelayed hspawned
    | ended r => exact hundisturbed.delivered r (.inr hdelayed)
    | _ =>
      rw [hdelayed] at hidle
      cases hidle
  have hplaced := ((accounted_run h).1.balanced.placed_iff p.mark
    ((Multiset.mem_filterMap _ _).mpr ⟨_, hin, rfl⟩)).mpr hmark
  rw [Publish.mark_item] at hplaced
  exact placedWhileOpen h hplaced

def delayedMessage : Message := { id := "42", delay := 5 }

/-- Thread 0 publishes a message with a delay, which passes, and thread 1 closes the queue. -/
def firedAndClosed : List (Move Request Action) :=
  .call (.publish (some delayedMessage) [] ∅) :: List.replicate 3 (.step 0 .proceed) ++
    [.step 0 .goroutine, .step 0 (.tick 5), .call .close, .step 1 .proceed, .step 1 .proceed, .step 1 .proceed] ++
    List.replicate 5 (.step 0 .goroutine) ++ [.step 1 .proceed, .step 1 .proceed]

theorem close_waits_for_delayed_fired :
    ∃ c p, (program "mail").Runs (newMemoryQueue 1) firedAndClosed c ∧ .publish p ∈ c.threads ∧ p.Delays "mail" ∧
      c.shared.ch.closed = true ∧ PlacedWhileOpen "mail" (newMemoryQueue 1) firedAndClosed p.ref := by
  have hquiet : Along (program "mail").next (fun c m => disturbs c m = false)
      { shared := newMemoryQueue 1 } firedAndClosed := by decide +kernel
  have hlate : Along (program "mail").next (fun c m => registersLate "mail" c m = false)
      { shared := newMemoryQueue 1 } firedAndClosed := by decide +kernel
  obtain ⟨c, p, hrun, hp, hdelay, hnil, hclosed⟩ : ∃ c p,
      (program "mail").Runs (newMemoryQueue 1) firedAndClosed c ∧ c.threads[0]? = some (.publish p) ∧
      p.Delays "mail" ∧ p.caller = .returned (.returns none) ∧ c.shared.ch.closed = true :=
    ⟨_, _, rfl, rfl, ⟨delayedMessage, rfl, by decide⟩, rfl, rfl⟩
  have hin := List.mem_of_getElem? hp
  exact ⟨c, p, hrun, hin, hdelay, hclosed, close_waits_for_delayed hrun hquiet hlate hin hdelay hnil hclosed⟩

/-- Thread 0 is admitted, thread 1 closes the queue, and thread 0 registers its message afterwards. -/
def registeredLate : List (Move Request Action) :=
  [.call (.publish (some delayedMessage) [] ∅), .step 0 .proceed, .call .close] ++
    List.replicate 5 (.step 1 .proceed) ++ List.replicate 2 (.step 0 .proceed)

/-- The publish returns nil after the channel was closed, and its goroutine drops the message. -/
theorem close_loses_delayed :
    ∃ c p d q, (program "mail").Runs (newMemoryQueue 1) registeredLate c ∧
      Along (program "mail").next (fun c m => disturbs c m = false) { shared := newMemoryQueue 1 } registeredLate ∧
      c.threads[0]? = some (.publish p) ∧ p.Delays "mail" ∧ p.caller = .returned (.returns none) ∧
      c.shared.ch.closed = true ∧ c.shared.placements = [] ∧
      run (program "mail").next c (.step 0 .goroutine :: .step 0 (.tick 5) ::
        List.replicate 4 (.step 0 .goroutine)) = some d ∧
      d.threads[0]? = some (.publish q) ∧ q.delayed = .ended (.returns (some errQueueClosed)) ∧
      d.shared.placements = [] :=
  ⟨_, _, _, _, rfl, by decide +kernel, rfl, ⟨delayedMessage, rfl, by decide⟩, rfl, rfl, rfl, rfl, rfl, rfl, rfl⟩

end MailBaby.Proofs
