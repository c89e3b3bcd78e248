import Mathlib.Data.Multiset.Bind
import MailBaby.Proofs.QueueSteps

/-!
# Delayed publishes

What lies on the channel of a memory queue is what its publishes have placed there, each at most once.
-/

namespace MailBaby.MemoryQueue

open Lib

variable {name : String} {trace : Headers} {s s' : State} {p p' : Publish} {a : Action}
variable {tid : Nat} {m : Message} {opts : List PublishOption}

lemma Context.err_none_iff {ctx : Context} {now : Time} : ctx.err now = none ↔
    ctx.callerDone = false ∧ ctx.cancelled = false ∧ ctx.deadline.any (· ≤ now) = false := by
  unfold Context.err
  split_ifs with hdone hlate
  · simp only [false_iff]
    rintro ⟨hcaller, hcancelled, -⟩
    simp [hcaller, hcancelled] at hdone
  · simp [hlate]
  · simpa [hlate, and_comm] using hdone

def Publish.hasPlaced (p : Publish) : Bool :=
  match p.delayed, p.caller with
  | .absent, .returning none => true
  | .absent, .returned none => true
  | .ended none, _ => true
  | _, _ => false

def Publish.placed (p : Publish) : Multiset (Nat × Message) :=
  if p.hasPlaced then {(p.ref, p.item)} else 0

def Caller.early : Caller → Bool
  | .returning _ => false
  | .returned _ => false
  | _ => true

structure Publish.WellFormed (name : String) (trace : Headers) (channelClosed : Bool) (p : Publish) :
    Prop where
  absent : p.caller.early = true → p.delayed = .absent
  derived : p.ctx.deadline.isSome = true → 0 < (publishOptions p.opts).timeout
  cancelled : p.ctx.cancelled = true → p.ctx.deadline.isSome = true
  item_eq : p.delayed ≠ .absent → ∃ m, p.msg = some m ∧ p.item = Memory.prepare name trace m p.opts
  dropped : ∀ err, p.delayed = .ended (some err) →
    channelClosed = true ∨ p.ctx.callerDone = true ∨ p.ctx.deadline.isSome = true

lemma Publish.WellFormed.of_err (hp : p.WellFormed name trace s.channelClosed) {now : Time}
    {err : GoError} (h : p.ctx.err now = some err) :
    p.ctx.callerDone = true ∨ p.ctx.deadline.isSome = true := by
  by_contra hno
  push Not at hno
  obtain ⟨hcaller, hdeadline⟩ := hno
  have hnone : p.ctx.err now = none := by
    refine Context.err_none_iff.mpr ⟨by simpa using hcaller, ?_, ?_⟩
    · cases hc : p.ctx.cancelled with
      | false => rfl
      | true => exact absurd (hp.cancelled hc) hdeadline
    · cases hd : p.ctx.deadline with
      | none => rfl
      | some t => simp [hd] at hdeadline
  rw [hnone] at h
  cases h

/-- One step of a publish: it stays well formed, and the channel gains what it places. -/
structure Moves (name : String) (trace : Headers) (s s' : State) (p p' : Publish) : Prop where
  flags : (s'.nextRef, s'.closed, s'.channelClosed, p'.ref) =
    (s.nextRef, s.closed, s.channelClosed, p.ref)
  channel : (s'.channel : Multiset (Nat × Message)) + p.placed = s.channel + p'.placed
  wellFormed : p'.WellFormed name trace s'.channelClosed

lemma coe_push (s : State) (p : Publish) :
    ((s.push p).channel : Multiset (Nat × Message)) + 0 = s.channel + {(p.ref, p.item)} := by
  rw [add_zero]
  exact (Multiset.coe_add s.channel [(p.ref, p.item)]).symm

lemma moves_publish (hp : p.WellFormed name trace s.channelClosed) (h : PublishStep name trace s p s' p') :
    Moves name trace s s' p p' := by
  have herr : ∀ err, p.ctx.err s.now = some err →
      p.ctx.callerDone = true ∨ p.ctx.deadline.isSome = true := fun err hctx => hp.of_err hctx
  have hitem := hp.item_eq
  obtain ⟨habsent, hderived, hcancelled, -, hdropped⟩ := hp
  obtain ⟨msg, opts, ref, item, ctx, caller, delayed⟩ := p
  have hderived' : (ctx.withTimeout s.now (publishOptions opts).timeout).deadline.isSome = true →
      0 < (publishOptions opts).timeout := by
    unfold Context.withTimeout
    split_ifs with htimeout
    · exact fun _ => htimeout
    · exact hderived
  have hcancelled' : (ctx.withTimeout s.now (publishOptions opts).timeout).cancelled = true →
      (ctx.withTimeout s.now (publishOptions opts).timeout).deadline.isSome = true := by
    unfold Context.withTimeout
    split_ifs
    · exact fun _ => rfl
    · exact hcancelled
  cases h with
  | failed err hcaller | admitted hcaller | refused err hcaller | passed hcaller | shut hcaller =>
    obtain rfl : caller = _ := hcaller
    obtain rfl : delayed = .absent := habsent rfl
    exact ⟨rfl, rfl, fun _ => rfl, hderived, hcancelled, hitem, hdropped⟩
  | registered m hcaller hmsg =>
    obtain rfl : caller = _ := hcaller
    obtain rfl : delayed = .absent := habsent rfl
    exact ⟨rfl, rfl, nofun, hderived', hcancelled', fun _ => ⟨m, hmsg, rfl⟩, nofun⟩
  | started m hcaller =>
    obtain rfl : caller = _ := hcaller
    obtain rfl : delayed = .absent := habsent rfl
    exact ⟨rfl, rfl, fun _ => rfl, hderived', hcancelled', fun hne => absurd rfl hne, nofun⟩
  | placed hcaller =>
    obtain rfl : caller = _ := hcaller
    obtain rfl : delayed = .absent := habsent rfl
    exact ⟨rfl, coe_push _ _, fun _ => rfl, hderived, hcancelled, hitem, hdropped⟩
  | returned err hcaller =>
    obtain rfl : caller = _ := hcaller
    refine ⟨rfl, ?_, nofun, hderived, fun hc => hc, hitem, hdropped⟩
    cases delayed with
    | absent => cases err <;> rfl
    | ended result => cases result <;> rfl
    | _ => rfl
  | timer hdelayed | fired fires hdelayed | delayedPassed hdelayed =>
    obtain rfl : delayed = _ := hdelayed
    exact ⟨rfl, rfl, fun he => absurd (habsent he) nofun, hderived, hcancelled, fun _ => hitem nofun, nofun⟩
  | abandoned fires err hdelayed hdone | delayedRefused err hdelayed hdone =>
    obtain rfl : delayed = _ := hdelayed
    exact ⟨rfl, rfl, fun he => absurd (habsent he) nofun, hderived, hcancelled, fun _ => hitem nofun,
      fun _ _ => .inr (herr err hdone)⟩
  | delayedShut hdelayed hclosed =>
    obtain rfl : delayed = _ := hdelayed
    exact ⟨rfl, rfl, fun he => absurd (habsent he) nofun, hderived, hcancelled, fun _ => hitem nofun,
      fun _ _ => .inl hclosed⟩
  | delayedPlaced hdelayed =>
    obtain rfl : delayed = _ := hdelayed
    exact ⟨rfl, coe_push _ _, fun he => absurd (habsent he) nofun, hderived, hcancelled,
      fun _ => hitem nofun, nofun⟩
  | cancelled => exact ⟨rfl, rfl, habsent, hderived, hcancelled, hitem, fun _ _ => .inr (.inl rfl)⟩
  | ticked d => exact ⟨rfl, rfl, habsent, hderived, hcancelled, hitem, hdropped⟩

/-! ### The channel holds what was placed -/

namespace Thread

def placed : Thread → Multiset (Nat × Message)
  | publish p => p.placed
  | close _ => 0

def refs : Thread → Multiset Nat
  | publish p => {p.ref}
  | close _ => 0

def pastMarking : Thread → Bool
  | close .waiting => true
  | close .closingChannel => true
  | _ => false

end Thread

variable {l l' : Thread} {rest threads : Multiset Thread}

lemma bind_placed_close (phase : Close) :
    (Thread.close phase ::ₘ rest).bind Thread.placed = rest.bind Thread.placed := by
  rw [Multiset.cons_bind, Thread.placed, zero_add]

lemma bind_refs_close (phase : Close) :
    (Thread.close phase ::ₘ rest).bind Thread.refs = rest.bind Thread.refs := by
  rw [Multiset.cons_bind, Thread.refs, zero_add]

structure Accounted (name : String) (trace : Headers) (s : State) (threads : Multiset Thread) :
    Prop where
  channel_eq : (s.channel : Multiset (Nat × Message)) = threads.bind Thread.placed
  refs_nodup : (threads.bind Thread.refs).Nodup
  refs_lt : ∀ ref ∈ threads.bind Thread.refs, ref < s.nextRef
  wellFormed : ∀ p, .publish p ∈ threads → p.WellFormed name trace s.channelClosed
  marked : ∀ l ∈ threads, l.pastMarking = true → s.closed = true
  closed : s.channelClosed = true → s.closed = true

lemma Accounted.publish (hc : Accounted name trace s (.publish p ::ₘ rest))
    (h : stepPublish name trace s p a = some (s', p')) :
    Accounted name trace s' (.publish p' ::ₘ rest) := by
  have hm := moves_publish (hc.wellFormed p (Multiset.mem_cons_self _ _)) (publishStep_of_stepPublish h)
  have hflags := hm.flags
  simp only [Prod.mk.injEq] at hflags
  obtain ⟨hnext, hclosed, hchannel, href⟩ := hflags
  have hrefs : (Thread.publish p' ::ₘ rest).bind Thread.refs =
      (Thread.publish p ::ₘ rest).bind Thread.refs := by
    simp only [Multiset.cons_bind, Thread.refs, href]
  constructor
  · have heq := hc.channel_eq
    rw [Multiset.cons_bind] at heq ⊢
    have hadd := hm.channel
    rw [heq] at hadd
    change _ = p'.placed + _
    change _ = p.placed + _ + _ at hadd
    rw [add_comm _ p.placed, add_assoc] at hadd
    rw [add_left_cancel hadd, add_comm]
  · rw [hrefs]
    exact hc.refs_nodup
  · rw [hrefs, hnext]
    exact hc.refs_lt
  · intro q hq
    rcases Multiset.mem_cons.mp hq with heq | hin
    · cases heq
      exact hm.wellFormed
    · rw [hchannel]
      exact hc.wellFormed q (Multiset.mem_cons_of_mem hin)
  · intro k hk hpast
    rw [hclosed]
    rcases Multiset.mem_cons.mp hk with rfl | hin
    · cases hpast
    · exact hc.marked k (Multiset.mem_cons_of_mem hin) hpast
  · rw [hchannel, hclosed]
    exact hc.closed

lemma Publish.WellFormed.mono {closed closed' : Bool} (hp : p.WellFormed name trace closed)
    (hle : closed = true → closed' = true) : p.WellFormed name trace closed' :=
  { hp with dropped := fun err herr => (hp.dropped err herr).imp_left hle }

lemma stepClose_cases {phase phase' : Close} (h : stepClose s phase a = some (s', phase')) :
    s'.channel = s.channel ∧ s'.nextRef = s.nextRef ∧
    (s.closed = true → s'.closed = true) ∧ (s.channelClosed = true → s'.channelClosed = true) ∧
    (Thread.pastMarking (.close phase') = true →
      s'.closed = true ∨ Thread.pastMarking (.close phase) = true) ∧
    (s'.channelClosed = true → s.channelClosed = true ∨ Thread.pastMarking (.close phase) = true) := by
  unfold stepClose at h
  split at h
  · split at h
    · cases h
      exact ⟨rfl, rfl, id, id, nofun, Or.inl⟩
    · cases h
    · cases h
      exact ⟨rfl, rfl, id, id, nofun, Or.inl⟩
  · cases h
    exact ⟨rfl, rfl, fun _ => rfl, id, fun _ => Or.inl rfl, Or.inl⟩
  · split_ifs at h
    cases h
    exact ⟨rfl, rfl, id, id, fun _ => Or.inr rfl, Or.inl⟩
  · cases h
    exact ⟨rfl, rfl, id, id, fun _ => Or.inr rfl, Or.inl⟩
  · cases h
    exact ⟨rfl, rfl, id, fun _ => rfl, nofun, fun _ => Or.inr rfl⟩
  · cases h
    exact ⟨rfl, rfl, id, id, Or.inr, Or.inl⟩
  · cases h

lemma Accounted.close {phase phase' : Close} (hc : Accounted name trace s (.close phase ::ₘ rest))
    (h : stepClose s phase a = some (s', phase')) :
    Accounted name trace s' (.close phase' ::ₘ rest) := by
  obtain ⟨hchannel, hnext, hclosed, hmono, hmarked, hclosing⟩ := stepClose_cases h
  have hpast : Thread.pastMarking (.close phase) = true → s'.closed = true :=
    fun hpast => hclosed (hc.marked _ (Multiset.mem_cons_self _ _) hpast)
  obtain ⟨heq, hnodup, hlt, hwell, hmarks, hcl⟩ := hc
  rw [bind_placed_close] at heq
  rw [bind_refs_close] at hnodup hlt
  constructor
  · rw [hchannel, bind_placed_close]
    exact heq
  · rw [bind_refs_close]
    exact hnodup
  · rw [hnext, bind_refs_close]
    exact hlt
  · intro q hq
    have hin : Thread.publish q ∈ rest := (Multiset.mem_cons.mp hq).resolve_left nofun
    exact (hwell q (Multiset.mem_cons_of_mem hin)).mono hmono
  · intro k hk hpast'
    rcases Multiset.mem_cons.mp hk with rfl | hin
    · exact (hmarked hpast').elim id hpast
    · exact hclosed (hmarks k (Multiset.mem_cons_of_mem hin) hpast')
  · intro hnow
    rcases hclosing hnow with hold | hold
    · exact hclosed (hcl hold)
    · exact hpast hold

lemma Accounted.request {i : Request} (hc : Accounted name trace s threads)
    (h : request s i = some (s', l)) : Accounted name trace s' (l ::ₘ threads) := by
  cases i with
  | publish msg opts =>
    cases h
    refine ⟨?_, ?_, ?_, ?_, ?_, hc.closed⟩
    · rw [Multiset.cons_bind]
      exact hc.channel_eq.trans (zero_add _).symm
    · rw [Multiset.cons_bind, Thread.refs, Multiset.singleton_add, Multiset.nodup_cons]
      exact ⟨fun hin => Nat.lt_irrefl _ (hc.refs_lt _ hin), hc.refs_nodup⟩
    · intro ref href
      rw [Multiset.cons_bind, Thread.refs, Multiset.singleton_add, Multiset.mem_cons] at href
      rcases href with rfl | hin
      · exact Nat.lt_succ_self _
      · exact Nat.lt_succ_of_lt (hc.refs_lt ref hin)
    · intro q hq
      rcases Multiset.mem_cons.mp hq with heq | hin
      · cases heq
        exact ⟨fun _ => rfl, nofun, nofun, fun hne => absurd rfl hne, nofun⟩
      · exact hc.wellFormed q hin
    · intro k hk hpast
      rcases Multiset.mem_cons.mp hk with rfl | hin
      · cases hpast
      · exact hc.marked k hin hpast
  | close =>
    cases h
    refine ⟨?_, ?_, ?_, ?_, ?_, hc.closed⟩
    · rw [bind_placed_close]
      exact hc.channel_eq
    · rw [bind_refs_close]
      exact hc.refs_nodup
    · rw [bind_refs_close]
      exact hc.refs_lt
    · intro q hq
      exact hc.wellFormed q ((Multiset.mem_cons.mp hq).resolve_left nofun)
    · intro k hk hpast
      rcases Multiset.mem_cons.mp hk with rfl | hin
      · cases hpast
      · exact hc.marked k hin hpast

lemma preserves_accounted : (program name trace).Preserves (Accounted name trace) where
  call hc hcall := hc.request hcall
  step {s rest l a s' l'} hc hstep := by
    cases l with
    | publish p =>
      obtain ⟨⟨t, q⟩, hq, heq⟩ := Option.map_eq_some_iff.mp hstep
      cases heq
      exact hc.publish hq
    | close phase =>
      obtain ⟨⟨t, q⟩, hq, heq⟩ := Option.map_eq_some_iff.mp hstep
      cases heq
      exact hc.close hq
  meet hc hmeet := by cases hmeet

lemma accounted_start : Accounted name trace {} 0 := by
  refine ⟨rfl, Multiset.nodup_zero, ?_, ?_, ?_, ?_⟩
  · exact fun ref href => absurd href (Multiset.notMem_zero ref)
  · exact fun p hp => absurd hp (Multiset.notMem_zero _)
  · exact fun l hl => absurd hl (Multiset.notMem_zero l)
  · exact fun hclosed => Bool.noConfusion hclosed

variable {c : System State Thread}

lemma Publish.fst_of_mem_placed {entry : Nat × Message} (h : entry ∈ p.placed) : entry.1 = p.ref := by
  unfold Publish.placed at h
  split_ifs at h
  · rw [Multiset.mem_singleton.mp h]
  · exact absurd h (Multiset.notMem_zero entry)

lemma fst_mem_refs {entry : Nat × Message} (h : entry ∈ threads.bind Thread.placed) :
    entry.1 ∈ threads.bind Thread.refs := by
  obtain ⟨l, hl, hentry⟩ := Multiset.mem_bind.mp h
  refine Multiset.mem_bind.mpr ⟨l, hl, ?_⟩
  cases l with
  | close phase => exact absurd hentry (Multiset.notMem_zero entry)
  | publish p => exact Multiset.mem_singleton.mpr (Publish.fst_of_mem_placed hentry)

lemma Accounted.filter_ref (hc : Accounted name trace s threads) (hp : .publish p ∈ threads) :
    (s.channel : Multiset (Nat × Message)).filter (fun entry => entry.1 = p.ref) = p.placed := by
  obtain ⟨rest, rfl⟩ := Multiset.exists_cons_of_mem hp
  have hnodup := hc.refs_nodup
  rw [Multiset.cons_bind, Thread.refs, Multiset.singleton_add, Multiset.nodup_cons] at hnodup
  rw [hc.channel_eq, Multiset.cons_bind, Multiset.filter_add]
  have hself : (Thread.publish p).placed.filter (fun entry => entry.1 = p.ref) = p.placed :=
    Multiset.filter_eq_self.mpr fun entry hentry => Publish.fst_of_mem_placed hentry
  have hrest : (rest.bind Thread.placed).filter (fun entry => entry.1 = p.ref) = 0 := by
    apply Multiset.filter_eq_nil.mpr
    intro entry hentry heq
    exact hnodup.1 (heq ▸ fst_mem_refs hentry)
  rw [hself, hrest, add_zero]

/-! ### Delayed publishes -/

def Delayed.isEnded : Delayed → Bool
  | .ended _ => true
  | _ => false

def Delayed.isDue (now : Time) : Delayed → Bool
  | .waiting fires => fires ≤ now
  | .checking => true
  | .sending => true
  | .ended _ => true
  | _ => false

def Delayed.rank : Delayed → Nat
  | .waiting _ => 3
  | .checking => 2
  | .sending => 1
  | _ => 0

/-- A publish that its caller takes for accepted, on an open queue and in a live context. -/
structure Accepted (m : Message) (opts : List PublishOption) (c : System State Thread) (tid : Nat)
    (p : Publish) : Prop where
  thread : c.threads[tid]? = some (.publish p)
  msg : p.msg = some m
  opts : p.opts = opts
  returned : p.caller = .returned none
  live : p.ctx.callerDone = false
  open_queue : c.shared.closed = false

def Kept (m : Message) (c : System State Thread) (p : Publish) : Prop :=
  (c.shared.channel.filter fun entry => entry.1 = p.ref) = [(p.ref, m)]

def Ends (name : String) (trace : Headers) (c : System State Thread) (tid : Nat) : Prop :=
  ∃ n d q, run (program name trace).next c (List.replicate n (.step tid .goroutine)) = some d ∧
    d.threads[tid]? = some (.publish q) ∧ q.delayed.isEnded = true

lemma next_goroutine (hl : c.threads[tid]? = some (.publish p))
    (h : stepGoroutine c.shared p = some (s', p')) :
    (program name trace).next c (.step tid .goroutine) =
      some ⟨s', c.threads.set tid (.publish p')⟩ := by
  simp only [Program.next, hl, Option.bind_some]
  simp only [program, step, stepPublish, h, Option.map_some]

lemma Ends.next (hl : c.threads[tid]? = some (.publish p))
    (h : stepGoroutine c.shared p = some (s', p'))
    (hend : Ends name trace ⟨s', c.threads.set tid (.publish p')⟩ tid) : Ends name trace c tid := by
  obtain ⟨n, d, q, hrun, hq, hended⟩ := hend
  refine ⟨n + 1, d, q, ?_, hq, hended⟩
  rw [List.replicate_succ, run, next_goroutine hl h]
  exact hrun

lemma stepGoroutine_of_isDue (hdue : p.delayed.isDue s.now = true) (hlive : p.delayed.isEnded = false) :
    ∃ s' p', stepGoroutine s p = some (s', p') ∧ p'.delayed.isDue s'.now = true ∧
      p'.delayed.rank < p.delayed.rank := by
  obtain ⟨msg, opts, ref, item, ctx, caller, delayed⟩ := p
  cases delayed with
  | absent => cases hdue
  | spawned => cases hdue
  | ended err => cases hlive
  | waiting fires =>
    have hfires : fires ≤ s.now := by simpa [Delayed.isDue] using hdue
    exact ⟨_, _, if_pos hfires, rfl, Nat.lt_succ_self 2⟩
  | checking =>
    simp only [stepGoroutine]
    cases ctx.err s.now with
    | none => exact ⟨_, _, rfl, rfl, Nat.lt_succ_self 1⟩
    | some err => exact ⟨_, _, rfl, rfl, Nat.two_pos⟩
  | sending =>
    by_cases hclosed : s.channelClosed = true
    · exact ⟨_, _, if_pos hclosed, rfl, Nat.one_pos⟩
    · exact ⟨_, _, if_neg hclosed, rfl, Nat.one_pos⟩

lemma ends_of_isDue (hl : c.threads[tid]? = some (.publish p))
    (hdue : p.delayed.isDue c.shared.now = true) : Ends name trace c tid := by
  -- on the distance of the goroutine from its end
  induction hrank : p.delayed.rank using Nat.strong_induction_on generalizing c p with
  | _ n ih =>
    cases hlive : p.delayed.isEnded with
    | true => exact ⟨0, c, p, rfl, hl, hlive⟩
    | false =>
      obtain ⟨s', p', hstep, hdue', hlt⟩ := stepGoroutine_of_isDue hdue hlive
      have hset : (c.threads.set tid (.publish p'))[tid]? = some (.publish p') := by
        obtain ⟨htid, -⟩ := List.getElem?_eq_some_iff.mp hl
        exact List.getElem?_set_self htid
      exact Ends.next hl hstep (ih _ (hrank ▸ hlt) hset hdue' rfl)

lemma Accounted.kept
    (hc : Accounted name trace c.shared c.threads) (hp : Accepted m opts c tid p)
    (htimeout : (publishOptions opts).timeout ≤ 0) (hended : p.delayed.isEnded = true) :
    Kept (Memory.prepare name trace m opts) c p := by
  have hin : .publish p ∈ (c.threads : Multiset Thread) :=
    Multiset.mem_coe.mpr (List.mem_of_getElem? hp.thread)
  have hwell := hc.wellFormed p hin
  obtain ⟨err, herr⟩ : ∃ err, p.delayed = .ended err := by
    cases hd : p.delayed with
    | ended err => exact ⟨err, rfl⟩
    | _ =>
      rw [hd] at hended
      cases hended
  have hitem : p.item = Memory.prepare name trace m opts := by
    obtain ⟨m', hm', hitem⟩ := hwell.item_eq (by rw [herr]; nofun)
    rw [hitem, hp.opts]
    rw [hp.msg] at hm'
    rw [Option.some.inj hm']
  -- nothing takes the context or the queue from this publish
  have hsent : err = none := by
    cases err with
    | none => rfl
    | some err =>
      rcases hwell.dropped err herr with hclosed | hcaller | hdeadline
      · exact absurd (hc.closed hclosed) (by simp [hp.open_queue])
      · rw [hp.live] at hcaller
        cases hcaller
      · have hpos := hwell.derived hdeadline
        rw [hp.opts] at hpos
        exact absurd hpos (not_lt.mpr htimeout)
  have hplaced : p.placed = {(p.ref, Memory.prepare name trace m opts)} := by
    rw [← hitem]
    unfold Publish.placed Publish.hasPlaced
    rw [herr, hsent]
    rfl
  have hfilter := hc.filter_ref hin
  rw [hplaced, Multiset.filter_coe] at hfilter
  exact Multiset.coe_eq_singleton.mp hfilter

end MailBaby.MemoryQueue

namespace MailBaby.Proofs

open Lib MemoryQueue

def cancelledPublish (m : Message) (opts : List PublishOption) : List (Move Request Action) :=
  [.call (.publish (some m) opts), .step 0 .proceed, .step 0 .proceed, .step 0 .goroutine,
    .step 0 .proceed, .step 0 .abandon]

def admittedPublish (m : Message) (opts : List PublishOption) : Publish :=
  { msg := some m, opts := opts, ref := 0, caller := .admitted }

def spawnedPublish (name : String) (trace : Headers) (m : Message) (opts : List PublishOption)
    (ctx : Context) : Publish :=
  { admittedPublish m opts with
    item := Memory.prepare name trace m opts
    ctx := ctx
    caller := .returning none
    delayed := .spawned }

lemma next_admittedPublish {name : String} {trace : Headers}
    (hdelay : 0 < (Memory.prepare name trace m opts).delay)
    (htimeout : 0 < (publishOptions opts).timeout) :
    (program name trace).next ⟨{ nextRef := 1 }, [.publish (admittedPublish m opts)]⟩ (.step 0 .proceed) =
      some ⟨{ nextRef := 1, delayedWg := 1 }, [.publish (spawnedPublish name trace m opts
        { deadline := some (0 + (publishOptions opts).timeout) })]⟩ := by
  have hctx : ({} : Context).withTimeout 0 (publishOptions opts).timeout =
      { deadline := some (0 + (publishOptions opts).timeout) } := if_pos htimeout
  have hstep : stepCaller name trace { nextRef := 1 } (admittedPublish m opts) =
      some ({ nextRef := 1, delayedWg := 1 }, spawnedPublish name trace m opts
        (({} : Context).withTimeout 0 (publishOptions opts).timeout)) := if_pos hdelay
  rw [hctx] at hstep
  change ((stepCaller name trace { nextRef := 1 } (admittedPublish m opts)).map _).map _ = _
  rw [hstep]
  rfl

lemma run_cancelledPublish {name : String} {trace : Headers}
    (hdelay : 0 < (Memory.prepare name trace m opts).delay)
    (htimeout : 0 < (publishOptions opts).timeout) :
    ∃ c p, (program name trace).Runs {} (cancelledPublish m opts) c ∧ Accepted m opts c 0 p ∧
      p.delayed.isEnded = true ∧ c.shared.channel = [] := by
  have hadmitted : run (program name trace).next { shared := {} }
      [.call (.publish (some m) opts), .step 0 .proceed] =
      some ⟨{ nextRef := 1 }, [.publish (admittedPublish m opts)]⟩ := rfl
  have hspawned : run (program name trace).next ⟨{ nextRef := 1 }, [.publish (admittedPublish m opts)]⟩
      [.step 0 .proceed] = _ := Option.bind_eq_some_iff.mpr ⟨_, next_admittedPublish hdelay htimeout, rfl⟩
  -- the deferred `cancel()` comes before the timer
  have hended : ∃ p, run (program name trace).next
      ⟨{ nextRef := 1, delayedWg := 1 }, [.publish (spawnedPublish name trace m opts
        { deadline := some (0 + (publishOptions opts).timeout) })]⟩
      [.step 0 .goroutine, .step 0 .proceed, .step 0 .abandon] = some ⟨{ nextRef := 1 }, [.publish p]⟩ ∧
      p.delayed.isEnded = true ∧ Accepted m opts ⟨{ nextRef := 1 }, [.publish p]⟩ 0 p :=
    ⟨_, rfl, rfl, rfl, rfl, rfl, rfl, rfl, rfl⟩
  obtain ⟨p, hended, hisEnded, haccepted⟩ := hended
  exact ⟨_, p, run_append_of hadmitted (run_append_of hspawned hended), haccepted, hisEnded, rfl⟩

/-- The goroutine of an accepted delayed publish ends once its timer is due; it ends in every case
with its message on the channel, once, exactly if no publish timeout is in force. -/
theorem delayed_publish_kept_iff {name : String} {trace : Headers} {m : Message}
    {opts : List PublishOption} (hdelay : 0 < (Memory.prepare name trace m opts).delay) :
    (∀ ms c tid p, (program name trace).Runs {} ms c → Accepted m opts c tid p →
      p.delayed.isDue c.shared.now = true → Ends name trace c tid) ∧
    ((∀ ms c tid p, (program name trace).Runs {} ms c → Accepted m opts c tid p →
      p.delayed.isEnded = true → Kept (Memory.prepare name trace m opts) c p) ↔
        (publishOptions opts).timeout ≤ 0) := by
  refine ⟨fun ms c tid p _ hp hdue => ends_of_isDue hp.thread hdue, ?_, ?_⟩
  · intro h
    by_contra hpos
    obtain ⟨c, p, hrun, hp, hended, hchannel⟩ := run_cancelledPublish hdelay (not_le.mp hpos)
    have hkept := h _ c 0 p hrun hp hended
    unfold Kept at hkept
    rw [hchannel] at hkept
    cases hkept
  · intro htimeout ms c tid p hrun hp hended
    exact (preserves_accounted.run accounted_start hrun).kept hp htimeout hended

def reminder : Message := { id := "42", payload := [104, 105] }

theorem delayed_publish_kept_iff_untimed :
    0 < (Memory.prepare "memory_default" ∅ reminder [.withDelay 5]).delay ∧
    ∀ ms c tid p, (program "memory_default" ∅).Runs {} ms c →
      Accepted reminder [.withDelay 5] c tid p → p.delayed.isEnded = true →
        Kept (Memory.prepare "memory_default" ∅ reminder [.withDelay 5]) c p :=
  ⟨by decide, (delayed_publish_kept_iff (by decide)).2.mpr (by decide)⟩

/-- A timeout that is longer than the delay does not help. -/
theorem timed_publish_dropped :
    ∃ c p, (program "memory_default" ∅).Runs {}
        (cancelledPublish reminder [.withDelay 5, .withPublishTimeout 1000]) c ∧
      Accepted reminder [.withDelay 5, .withPublishTimeout 1000] c 0 p ∧
      p.delayed.isEnded = true ∧ c.shared.channel = [] :=
  run_cancelledPublish (by decide) (by decide)

end MailBaby.Proofs
