import MailBaby.Driver.MemoryConsumer
import MailBaby.Proofs.QueueSteps

/-!
# What `Close` waits for

`drain` polls a counter that a goroutine of `Consume` increments only after it has taken its message off the
channel.
-/

namespace MailBaby.MemoryConsumer

open Lib MemoryQueue

/-! ### Where the threads stand -/

def callerPending : Caller → Bool
  | .admitted => true
  | .checking => true
  | .sending => true
  | _ => false

def delayedPending : Delayed → Bool
  | .spawned => true
  | .waiting _ => true
  | .checking => true
  | .sending => true
  | _ => false

def underway (p : Publish) : Bool := callerPending p.caller || delayedPending p.delayed

lemma underway_of_caller {p : Publish} (h : callerPending p.caller = true) : underway p = true := by
  rw [underway, h, Bool.true_or]

lemma underway_of_delayed {p : Publish} (h : delayedPending p.delayed = true) : underway p = true := by
  rw [underway, h, Bool.or_true]

namespace Worker

def holds : Worker → Bool
  | idle => false
  | stopped => false
  | _ => true

def uncounted : Worker → Bool
  | received _ => true
  | _ => false

def counted : Worker → Bool
  | handling _ => true
  | requeueing _ => true
  | finished => true
  | _ => false

lemma holds_eq (w : Worker) : w.holds = (w.uncounted || w.counted) := by
  cases w <;> rfl

end Worker

namespace Closing

def marked : Closing → Bool
  | draining => true
  | phase .waiting => true
  | phase .closingChannel => true
  | _ => false

def drained : Closing → Bool
  | phase .waiting => true
  | phase .closingChannel => true
  | phase .returned => true
  | _ => false

def returned : Closing → Bool
  | phase .returned => true
  | _ => false

end Closing

namespace Thread

def underway : Thread → Bool
  | publish p => MemoryConsumer.underway p
  | _ => false

def holds : Thread → Bool
  | worker _ w => w.holds
  | _ => false

def uncounted : Thread → Bool
  | worker _ w => w.uncounted
  | _ => false

def counted : Thread → Bool
  | worker _ w => w.counted
  | _ => false

lemma holds_eq (l : Thread) : l.holds = (l.uncounted || l.counted) := by
  cases l with
  | publish p => rfl
  | close c => rfl
  | worker autoAck w => exact w.holds_eq

def marked : Thread → Bool
  | close c => c.marked
  | _ => false

def drained : Thread → Bool
  | close c => c.drained
  | _ => false

def returned : Thread → Bool
  | close c => c.returned
  | _ => false

lemma drained_of_returned {l : Thread} (h : l.returned = true) : l.drained = true := by
  rcases l with p | (p | _) | ⟨autoAck, w⟩
  · cases h
  · cases p with
    | returned => rfl
    | _ => cases h
  · cases h
  · cases h

end Thread

/-! ### What a step can do -/

variable {capacity : Nat} {name : String} {trace : Headers} {s s' : State}

def Idles (t t' : MemoryQueue.State) (p p' : Publish) : Prop :=
  t'.closed = t.closed ∧ t'.closeOnce = t.closeOnce ∧
    (t.closed = true → underway p = false → t'.channel = t.channel ∧ underway p' = false)

section Publish

variable {t t' : MemoryQueue.State} {p p' : Publish}

lemma Idles.of_underway (hclosed : t'.closed = t.closed) (honce : t'.closeOnce = t.closeOnce)
    (hp : underway p = true) : Idles t t' p p' := by
  refine ⟨hclosed, honce, fun _ hnot => ?_⟩
  rw [hp] at hnot
  cases hnot

lemma idles_publish (h : MemoryQueue.PublishStep name trace t p t' p') : Idles t t' p p' := by
  cases h with
  | failed err hcaller | returned err hcaller =>
    refine ⟨rfl, rfl, fun _ hp => ⟨rfl, ?_⟩⟩
    simpa [underway, hcaller, callerPending] using hp
  | admitted hcaller hopen =>
    refine ⟨rfl, rfl, fun hclosed => ?_⟩
    rw [hopen] at hclosed
    cases hclosed
  | registered m hcaller | started m hcaller | refused err hcaller | passed hcaller | shut hcaller
  | placed hcaller =>
    exact .of_underway rfl rfl (underway_of_caller (by rw [hcaller]; rfl))
  | timer hdelayed | fired fires hdelayed | abandoned fires err hdelayed | delayedRefused err hdelayed
  | delayedPassed hdelayed | delayedShut hdelayed | delayedPlaced hdelayed =>
    exact .of_underway rfl rfl (underway_of_delayed (by rw [hdelayed]; rfl))
  | cancelled | ticked d => exact ⟨rfl, rfl, fun _ hp => ⟨rfl, hp⟩⟩

end Publish

lemma stepPublish_spec {p p' : Publish} {a : MemoryQueue.Action}
    (h : stepPublish capacity name trace s p a = some (s', p')) :
    s'.inFlight = s.inFlight ∧ Idles s.toState s'.toState p p' := by
  unfold stepPublish at h
  split at h
  · cases h
  · obtain ⟨⟨t, q⟩, hstep, heq⟩ := Option.map_eq_some_iff.mp h
    cases heq
    exact ⟨rfl, idles_publish (publishStep_of_stepPublish hstep)⟩

lemma stepClose_spec {t t' : MemoryQueue.State} {p p' : Close} {a : MemoryQueue.Action}
    (h : stepClose t p a = some (t', p')) (hmarking : p = .marking → a ≠ .proceed) :
    t'.channel = t.channel ∧ t'.closed = t.closed ∧
      (Closing.marked (.phase p') = true → Closing.marked (.phase p) = true) ∧
      (Closing.drained (.phase p') = true ∨ t'.closeOnce = .done →
        Closing.drained (.phase p) = true ∨ t.closeOnce = .done) := by
  unfold stepClose at h
  split at h
  · split at h
    · cases h
      exact ⟨rfl, rfl, nofun, by simp [Closing.drained]⟩
    · cases h
    · rename_i hdone
      cases h
      exact ⟨rfl, rfl, nofun, fun _ => .inr hdone⟩
  · exact absurd rfl (hmarking rfl)
  · split at h
    · cases h
      exact ⟨rfl, rfl, fun _ => rfl, fun _ => .inl rfl⟩
    · cases h
  · cases h
    exact ⟨rfl, rfl, fun _ => rfl, fun _ => .inl rfl⟩
  · cases h
    exact ⟨rfl, rfl, nofun, fun _ => .inl rfl⟩
  · cases h
    exact ⟨rfl, rfl, id, id⟩
  · cases h

lemma stepClosing_spec {c c' : Closing} {a : MemoryQueue.Action} (h : stepClosing s c a = some (s', c')) :
    s'.inFlight = s.inFlight ∧ s'.channel = s.channel ∧ (s.closed = true → s'.closed = true) ∧
      (c'.marked = true → s'.closed = true ∨ c.marked = true) ∧
      (a ≠ .giveUp → c'.drained = true ∨ s'.closeOnce = .done →
        (c.drained = true ∨ s.closeOnce = .done) ∨
          c = .draining ∧ a = .proceed ∧ s.inFlight ≤ 0) := by
  unfold stepClosing at h
  split at h
  · cases h
    refine ⟨rfl, rfl, fun _ => rfl, fun _ => .inl rfl, fun _ hend => ?_⟩
    simpa [Closing.drained] using hend
  · split at h
    · cases h
    · rename_i hzero
      cases h
      exact ⟨rfl, rfl, id, fun _ => .inr rfl, fun _ _ => .inr ⟨rfl, rfl, Int.not_lt.mp hzero⟩⟩
  · cases h
    exact ⟨rfl, rfl, id, fun _ => .inr rfl, fun hne => absurd rfl hne⟩
  · cases h
    exact ⟨rfl, rfl, id, fun _ => .inr rfl, fun _ => .inl⟩
  · cases h
  · rename_i hmarking
    obtain ⟨⟨t, q'⟩, hstep, heq⟩ := Option.map_eq_some_iff.mp h
    cases heq
    obtain ⟨hchannel, hclosed, hmark, hend⟩ := stepClose_spec hstep fun hq ha => hmarking ha hq
    exact ⟨rfl, hchannel, fun h => hclosed.trans h, fun h => .inr (hmark h), fun _ h => .inl (hend h)⟩

lemma stepWorker_spec {autoAck : Bool} {w w' : Worker} {a : Action}
    (h : stepWorker capacity autoAck s w a = some (s', w')) :
    s'.closed = s.closed ∧ s'.closeOnce = s.closeOnce ∧
      s'.inFlight + w.counted.toNat = s.inFlight + w'.counted.toNat ∧
      (s.channel = [] → w.holds = false → s'.channel = [] ∧ w'.holds = false) := by
  unfold stepWorker at h
  split at h
  · split at h
    · cases h
      exact ⟨rfl, rfl, rfl, fun hempty => by simp_all⟩
    · split at h
      · cases h
        exact ⟨rfl, rfl, rfl, fun hempty _ => ⟨hempty, rfl⟩⟩
      · cases h
  · cases h
    exact ⟨rfl, rfl, rfl, fun hempty _ => ⟨hempty, rfl⟩⟩
  · cases h
    refine ⟨rfl, rfl, ?_, nofun⟩
    simp [Worker.counted]
  · cases h
    exact ⟨rfl, rfl, rfl, nofun⟩
  · split at h
    · cases h
      exact ⟨rfl, rfl, rfl, nofun⟩
    · split at h
      · cases h
        exact ⟨rfl, rfl, rfl, nofun⟩
      · cases h
        exact ⟨rfl, rfl, rfl, nofun⟩
  · split at h
    · cases h
      exact ⟨rfl, rfl, rfl, nofun⟩
    · split at h
      · cases h
      · cases h
        exact ⟨rfl, rfl, rfl, nofun⟩
  · cases h
    exact ⟨rfl, rfl, rfl, nofun⟩
  · cases h
    refine ⟨rfl, rfl, ?_, nofun⟩
    simp [Worker.counted]
  · cases h
    exact ⟨rfl, rfl, rfl, fun hempty hw => ⟨hempty, hw⟩⟩
  · cases h

/-- What a step may change, as far as draining is concerned. -/
structure Effect (s s' : State) (l l' : Thread) (a : Action) : Prop where
  inFlight : s'.inFlight + l.counted.toNat = s.inFlight + l'.counted.toNat
  closed : s.closed = true → s'.closed = true
  marked : l'.marked = true → s'.closed = true ∨ l.marked = true
  quiet : s.closed = true → s.channel = [] → l.holds = false → l.underway = false →
    s'.channel = [] ∧ l'.holds = false ∧ l'.underway = false
  drained : a ≠ .queue .giveUp → l'.drained = true ∨ s'.closeOnce = .done →
    (l.drained = true ∨ s.closeOnce = .done) ∨
      l = .close .draining ∧ a = .queue .proceed ∧ s.inFlight ≤ 0

lemma step_effect {l l' : Thread} {a : Action} (h : step capacity name trace s l a = some (s', l')) :
    Effect s s' l l' a := by
  cases l with
  | publish p =>
    cases a with
    | queue a =>
      obtain ⟨⟨t, p'⟩, hstep, heq⟩ := Option.map_eq_some_iff.mp h
      cases heq
      obtain ⟨hcount, hclosed, honce, hidle⟩ := stepPublish_spec hstep
      refine ⟨?_, fun h => hclosed.trans h, nofun, fun hs hempty _ hp => ?_, fun _ hend => ?_⟩
      · rw [hcount]
        rfl
      · obtain ⟨hchannel, hp'⟩ := hidle hs hp
        exact ⟨hchannel.trans hempty, rfl, hp'⟩
      · rw [honce] at hend
        exact .inl (.inr (hend.resolve_left Bool.false_ne_true))
    | ack => cases h
    | nack requeue => cases h
    | finish => cases h
  | close c =>
    cases a with
    | queue a =>
      obtain ⟨⟨t, c'⟩, hstep, heq⟩ := Option.map_eq_some_iff.mp h
      cases heq
      obtain ⟨hcount, hchannel, hclosed, hmarked, hend⟩ := stepClosing_spec hstep
      refine ⟨?_, hclosed, hmarked, fun _ hempty _ _ => ⟨hchannel.trans hempty, rfl, rfl⟩, fun ha hl' => ?_⟩
      · rw [hcount]
        rfl
      · have hne : a ≠ .giveUp := fun heq => ha (by rw [heq])
        refine (hend hne hl').imp_right fun ⟨hc, haction, hzero⟩ => ?_
        exact ⟨by rw [hc], by rw [haction], hzero⟩
    | ack => cases h
    | nack requeue => cases h
    | finish => cases h
  | worker autoAck w =>
    obtain ⟨⟨t, w'⟩, hstep, heq⟩ := Option.map_eq_some_iff.mp h
    cases heq
    obtain ⟨hclosed, honce, hcount, hidle⟩ := stepWorker_spec hstep
    refine ⟨hcount, fun h => hclosed.trans h, nofun, fun _ hempty hw _ => ?_, fun _ hend => ?_⟩
    · obtain ⟨hchannel, hw'⟩ := hidle hempty hw
      exact ⟨hchannel, hw', rfl⟩
    · rw [honce] at hend
      exact .inl (.inr (hend.resolve_left Bool.false_ne_true))

lemma request_spec {i : Request} {l : Thread} (h : request s i = some (s', l)) :
    (s'.inFlight = s.inFlight ∧ s'.closed = s.closed ∧ s'.channel = s.channel ∧ s'.closeOnce = s.closeOnce) ∧
      l.counted = false ∧ l.holds = false ∧ l.underway = false ∧ l.marked = false ∧ l.drained = false := by
  cases i with
  | publish msg opts =>
    cases h
    exact ⟨⟨rfl, rfl, rfl, rfl⟩, rfl, rfl, rfl, rfl, rfl⟩
  | close =>
    cases h
    exact ⟨⟨rfl, rfl, rfl, rfl⟩, rfl, rfl, rfl, rfl, rfl⟩
  | worker autoAck =>
    cases h
    exact ⟨⟨rfl, rfl, rfl, rfl⟩, rfl, rfl, rfl, rfl, rfl⟩

/-! ### Invariants -/

variable {rest : Multiset Thread} {l l' : Thread} {a : Action}

structure Consistent (s : State) (threads : Multiset Thread) : Prop where
  inFlight_eq : s.inFlight = count Thread.counted threads
  marked : ∀ l ∈ threads, l.marked = true → s.closed = true

lemma preserves_consistent : (program capacity name trace).Preserves Consistent where
  call := by
    intro s rest i s' l hc h
    obtain ⟨⟨hcount, hclosed, -⟩, hl, -, -, hmarked, -⟩ := request_spec h
    refine ⟨?_, ?_⟩
    · rw [count_cons_of_false hl, hcount]
      exact hc.inFlight_eq
    · intro k hk hkm
      rw [hclosed]
      rcases Multiset.mem_cons.mp hk with rfl | hin
      · rw [hmarked] at hkm
        cases hkm
      · exact hc.marked k hin hkm
  step := by
    intro s rest l a s' l' hc h
    have heffect := step_effect h
    refine ⟨?_, ?_⟩
    · have hcount := heffect.inFlight
      have hold := hc.inFlight_eq
      rw [count_cons] at hold ⊢
      push_cast at hold ⊢
      omega
    · intro k hk hkm
      rcases Multiset.mem_cons.mp hk with rfl | hin
      · rcases heffect.marked hkm with hnow | hbefore
        · exact hnow
        · exact heffect.closed (hc.marked l (Multiset.mem_cons_self _ _) hbefore)
      · exact heffect.closed (hc.marked k (Multiset.mem_cons_of_mem hin) hkm)
  meet := nofun

structure Quiet (s : State) (threads : Multiset Thread) : Prop where
  closed : s.closed = true
  channel_eq : s.channel = []
  idle : ∀ l ∈ threads, l.holds = false
  settled : ∀ l ∈ threads, l.underway = false

lemma preserves_quiet : (program capacity name trace).Preserves Quiet where
  call := by
    intro s rest i s' l hq h
    obtain ⟨⟨-, hclosed, hchannel, -⟩, -, hholds, hunder, -⟩ := request_spec h
    refine ⟨hclosed.trans hq.closed, hchannel.trans hq.channel_eq, ?_, ?_⟩
    · exact Multiset.forall_mem_cons.mpr ⟨hholds, hq.idle⟩
    · exact Multiset.forall_mem_cons.mpr ⟨hunder, hq.settled⟩
  step := by
    intro s rest l a s' l' hq h
    have heffect := step_effect h
    obtain ⟨hidle, hidles⟩ := Multiset.forall_mem_cons.mp hq.idle
    obtain ⟨hsettled, hsettleds⟩ := Multiset.forall_mem_cons.mp hq.settled
    obtain ⟨hchannel, hholds, hunder⟩ := heffect.quiet hq.closed hq.channel_eq hidle hsettled
    refine ⟨heffect.closed hq.closed, hchannel, ?_, ?_⟩
    · exact Multiset.forall_mem_cons.mpr ⟨hholds, hidles⟩
    · exact Multiset.forall_mem_cons.mpr ⟨hunder, hsettleds⟩
  meet := nofun

def Drained (s : State) (threads : Multiset Thread) : Prop :=
  (∃ l ∈ threads, l.drained = true) ∨ s.closeOnce = .done

def leavesDrain (c : System State Thread) : Move Request Action → Bool
  | .step tid (.queue .proceed) =>
    match c.threads[tid]? with
    | some (.close .draining) => true
    | _ => false
  | _ => false

/-- The channel is empty, every message that was received is in the counter, and no publish is under
way. -/
def nothingPending (c : System State Thread) : Bool :=
  c.shared.channel.isEmpty && c.threads.all fun l => !l.uncounted && !l.underway

structure Invariant (c : System State Thread) : Prop where
  consistent : Consistent c.shared c.threads
  quiet : Drained c.shared c.threads → Quiet c.shared c.threads

lemma Consistent.quiet_of_drain {c : System State Thread} (hc : Consistent c.shared c.threads)
    (hdraining : Thread.close .draining ∈ c.threads) (hzero : c.shared.inFlight ≤ 0)
    (hpending : nothingPending c = true) : Quiet c.shared c.threads := by
  simp only [nothingPending, Bool.and_eq_true, List.isEmpty_iff, List.all_eq_true, Bool.not_eq_true'] at hpending
  obtain ⟨hempty, hthreads⟩ := hpending
  have hcounted : count Thread.counted c.threads = 0 := by
    have hcount := hc.inFlight_eq
    omega
  refine ⟨hc.marked _ hdraining rfl, hempty, fun l hl => ?_, fun l hl => (hthreads l hl).2⟩
  rw [Thread.holds_eq, (hthreads l hl).1, count_eq_zero.mp hcounted l hl]
  rfl

lemma Invariant.next {c d : System State Thread} {m : Move Request Action} (hc : Invariant c)
    (hm : ∀ tid, m ≠ .step tid (.queue .giveUp))
    (hpending : leavesDrain c m = true → nothingPending c = true)
    (h : (program capacity name trace).next c m = some d) : Invariant d := by
  refine ⟨preserves_consistent.next hc.consistent h, fun hdrained => ?_⟩
  by_cases hbefore : Drained c.shared c.threads
  · exact preserves_quiet.next (hc.quiet hbefore) h
  · apply preserves_quiet.next ?_ h
    rcases Program.next_cases h with ⟨i, s, l, -, hcall, hs, hthreads⟩ |
      ⟨tid, a, l, s, l', rest, rfl, hl, hstep, hrest, hs, hthreads⟩ | ⟨_, _, _, _, _, _, _, _, -, hmeet, -⟩
    · -- a new call has not drained anything
      obtain ⟨⟨-, -, -, honce⟩, -, -, -, -, hl⟩ := request_spec hcall
      refine absurd ?_ hbefore
      rcases hdrained with ⟨k, hk, hend⟩ | hdone
      · rw [hthreads] at hk
        rcases Multiset.mem_cons.mp hk with rfl | hin
        · rw [hl] at hend
          cases hend
        · exact .inl ⟨k, hin, hend⟩
      · rw [hs, honce] at hdone
        exact .inr hdone
    · have heffect := step_effect hstep
      have hend : l'.drained = true ∨ s.closeOnce = .done := by
        rcases hdrained with ⟨k, hk, hend⟩ | hdone
        · rw [hthreads] at hk
          rcases Multiset.mem_cons.mp hk with rfl | hin
          · exact .inl hend
          · refine absurd (.inl ⟨k, ?_, hend⟩) hbefore
            rw [hrest]
            exact Multiset.mem_cons_of_mem hin
        · rw [hs] at hdone
          exact .inr hdone
      have hne : a ≠ .queue .giveUp := fun ha => hm tid (by rw [ha])
      rcases heffect.drained hne hend with (hdrain | hdone) | ⟨rfl, rfl, hzero⟩
      · exact absurd (.inl ⟨l, List.mem_of_getElem? hl, hdrain⟩) hbefore
      · exact absurd (.inr hdone) hbefore
      · refine hc.consistent.quiet_of_drain (List.mem_of_getElem? hl) hzero (hpending ?_)
        simp only [leavesDrain, hl]
    · cases hmeet

lemma invariant_start (buffer : List Message) : Invariant { shared := start buffer } := by
  refine ⟨⟨(congrArg Nat.cast count_zero).symm, fun l hl => absurd hl (Multiset.notMem_zero l)⟩, ?_⟩
  rintro (⟨l, hl, -⟩ | hdone)
  · exact absurd hl (Multiset.notMem_zero l)
  · cases hdone

end MailBaby.MemoryConsumer

namespace MailBaby.Proofs

open Lib MemoryConsumer

/-- In a run without timeouts, in which nothing is pending whenever `drain` finds its counter at zero,
no goroutine of a consumer holds a message once a call of `Close` has returned. -/
theorem close_waits_for_workers {capacity : Nat} {name : String} {trace : Headers} {buffer : List Message}
    {ms : List (Move MemoryConsumer.Request MemoryConsumer.Action)} {c : System MemoryConsumer.State Thread}
    (hrun : (program capacity name trace).Runs (start buffer) ms c)
    (hpatient : ∀ tid, .step tid (.queue .giveUp) ∉ ms)
    (hpending : Along (program capacity name trace).next
      (fun c m => leavesDrain c m = true → nothingPending c = true) { shared := start buffer } ms)
    (hreturned : ∃ l ∈ c.threads, l.returned = true) : ∀ l ∈ c.threads, l.holds = false := by
  have hnever : ∀ m ∈ ms, ∀ tid, m ≠ .step tid (.queue .giveUp) := by
    rintro m hm tid rfl
    exact hpatient tid hm
  have hinv := run_invariant_along (fun s m t hs hok ht => Invariant.next hs hok.2 hok.1 ht)
    (invariant_start buffer) (hpending.and (along_of_forall hnever)) hrun
  obtain ⟨l, hl, hret⟩ := hreturned
  exact (hinv.quiet (.inl ⟨l, hl, Thread.drained_of_returned hret⟩)).idle

def workerAndClose (worked : List MemoryConsumer.Action) :
    List (Move MemoryConsumer.Request MemoryConsumer.Action) :=
  [.call (.worker false), .call .close, .step 0 (.queue .proceed)] ++ worked.map (.step 0) ++
    List.replicate 5 (.step 1 (.queue .proceed))

def handled : List MemoryConsumer.Action := [.queue .proceed, .nack false, .finish, .queue .proceed]

theorem close_waits_for_workers_handled :
    ∃ c, (program 16 "mail" ∅).Runs (start [{ id := "42" }]) (workerAndClose handled) c ∧
      (∃ l ∈ c.threads, l.returned = true) ∧ ∀ l ∈ c.threads, l.holds = false := by
  have hpending : Along (program 16 "mail" ∅).next
      (fun c m => leavesDrain c m = true → nothingPending c = true) { shared := start [{ id := "42" }] }
      (workerAndClose handled) := by decide +kernel
  obtain ⟨c, hrun, hthreads⟩ : ∃ c, (program 16 "mail" ∅).Runs (start [{ id := "42" }])
      (workerAndClose handled) c ∧ c.threads = [.worker false .idle, .close (.phase .returned)] :=
    ⟨_, rfl, rfl⟩
  have hreturned : ∃ l ∈ c.threads, l.returned = true := by
    rw [hthreads]
    exact ⟨.close (.phase .returned), by simp, rfl⟩
  have hpatient : ∀ tid, .step tid (.queue .giveUp) ∉ workerAndClose handled := by
    simp [workerAndClose, handled]
  exact ⟨c, hrun, hreturned, close_waits_for_workers hrun hpatient hpending hreturned⟩

/-- `Close` returns while the worker has a message that it took off the channel and did not count. -/
theorem close_returns_before_handler :
    ∃ c d, (program 16 "mail" ∅).Runs (start [{ id := "42" }]) (workerAndClose []) c ∧
      c.threads = [.worker false (.received { id := "42" }), .close (.phase .returned)] ∧
      (program 16 "mail" ∅).next c (.step 0 (.queue .proceed)) = some d ∧
      d.threads = [.worker false (.handling { id := "42" }), .close (.phase .returned)] :=
  ⟨_, _, rfl, rfl, rfl, rfl⟩

end MailBaby.Proofs
