import MailBaby.Driver.MemoryConsumer
import MailBaby.Lib.History
import MailBaby.Proofs.QueueSteps

/-!
# Requeueing on a full channel

The goroutines of `Consume` are the only ones that take messages off the channel, and a `Nack` that requeues
makes them wait for room on it.
-/

namespace MailBaby.MemoryConsumer

open Lib MemoryQueue

variable {capacity : Nat} {name : String} {trace : Headers} {s s' : State}

/-! ### How many messages there are -/

def callerLoad : Caller → Nat
  | .returning _ => 0
  | .returned _ => 0
  | _ => 1

def delayedLoad : Delayed → Nat
  | .absent => 0
  | .ended _ => 0
  | _ => 1

def publishLoad (p : Publish) : Nat := callerLoad p.caller + delayedLoad p.delayed

def Worker.load : Worker → Nat
  | received _ => 1
  | handling m => (!m.acknowledged).toNat
  | requeueing _ => 1
  | _ => 0

def Thread.load : Thread → Nat
  | publish p => publishLoad p
  | worker _ w => w.load
  | close _ => 0

section Publish

variable {t t' : MemoryQueue.State} {p p' : Publish}

lemma length_push (t : MemoryQueue.State) (p : Publish) : (t.push p).channel.length = t.channel.length + 1 := by
  simp [MemoryQueue.State.push]

lemma load_publish (h : MemoryQueue.PublishStep name trace t p t' p') :
    t'.channel.length + publishLoad p' ≤ t.channel.length + publishLoad p ∧
      t'.channelClosed = t.channelClosed := by
  unfold publishLoad
  cases h with
  | placed hcaller hopen =>
    rw [hcaller, length_push]
    simp only [callerLoad]
    exact ⟨by omega, rfl⟩
  | delayedPlaced hdelayed hopen =>
    rw [hdelayed]
    simp only [length_push, delayedLoad]
    exact ⟨by omega, rfl⟩
  | failed err hcaller | admitted hcaller | registered m hcaller | started m hcaller | refused err hcaller
  | passed hcaller | shut hcaller | returned err hcaller =>
    rw [hcaller]
    simp [callerLoad, delayedLoad, Publish.begun]
  | timer hdelayed | fired fires hdelayed | abandoned fires err hdelayed | delayedRefused err hdelayed
  | delayedPassed hdelayed | delayedShut hdelayed =>
    rw [hdelayed]
    simp [delayedLoad]
  | cancelled | ticked d => exact ⟨le_rfl, rfl⟩

end Publish

/-! ### Goroutines of `Consume` -/

/-- The goroutine has not stopped, and what it requeues it has settled; with automatic acknowledgement it
requeues nothing. -/
def Worker.live (autoAck : Bool) : Worker → Bool
  | stopped => false
  | requeueing m => m.acknowledged && !autoAck
  | handling m => m.acknowledged || !autoAck
  | _ => true

lemma step_worker {autoAck : Bool} {w w' : Worker} {a : Action} (hopen : s.channelClosed = false)
    (hw : w.live autoAck = true) (ha : a ≠ .queue .cancel)
    (h : stepWorker capacity autoAck s w a = some (s', w')) :
    s'.channel.length + w'.load ≤ s.channel.length + w.load ∧ s'.channelClosed = false ∧
      w'.live autoAck = true := by
  unfold stepWorker at h
  split at h
  · split at h
    · rename_i entry rest hchannel
      cases h
      rw [hchannel]
      exact ⟨by simp [Worker.load], hopen, rfl⟩
    · rw [if_neg (Bool.eq_false_iff.mp hopen)] at h
      cases h
  · exact absurd rfl ha
  · rename_i m
    cases h
    refine ⟨Nat.add_le_add_left (Bool.toNat_le _) _, hopen, ?_⟩
    cases autoAck <;> simp [Worker.live]
  · cases h
    exact ⟨by simp [Worker.load], hopen, rfl⟩
  · split at h
    · cases h
      exact ⟨le_rfl, hopen, hw⟩
    · rename_i m requeue hack
      have hunsettled : m.acknowledged = false := Bool.eq_false_iff.mpr hack
      split at h
      · cases h
        refine ⟨by simp [Worker.load, hunsettled], hopen, ?_⟩
        simpa [Worker.live, hunsettled] using hw
      · cases h
        exact ⟨by simp [Worker.load], hopen, rfl⟩
  · rename_i m
    obtain ⟨hack, hauto⟩ := Bool.and_eq_true_iff.mp hw
    rw [if_neg (Bool.eq_false_iff.mp hopen)] at h
    split at h
    · cases h
    · cases h
      refine ⟨by simp [Worker.load, State.requeue, hack], hopen, ?_⟩
      simp [Worker.live, hack]
  · cases h
    exact ⟨by simp [Worker.load], hopen, rfl⟩
  · cases h
    exact ⟨le_rfl, hopen, rfl⟩
  · cases h
    exact ⟨le_rfl, hopen, hw⟩
  · cases h

lemma exists_step_worker {autoAck : Bool} {w : Worker} (hopen : s.channelClosed = false)
    (hw : w.live autoAck = true) (hchannel : s.channel ≠ [])
    (hroom : (∃ m, w = .requeueing m) → s.channel.length < capacity) :
    ∃ a s' w', a ≠ .queue .cancel ∧ (∀ d, a ≠ .queue (.tick d)) ∧
      stepWorker capacity autoAck s w a = some (s', w') := by
  cases w with
  | idle =>
    obtain ⟨entry, rest, hcons⟩ := List.exists_cons_of_ne_nil hchannel
    refine ⟨.queue .proceed, { s with channel := rest }, .received entry.2, by simp, by simp, ?_⟩
    simp only [stepWorker, hcons]
  | received m => exact ⟨.queue .proceed, _, _, by simp, by simp, rfl⟩
  | handling m => exact ⟨.finish, _, _, by simp, by simp, rfl⟩
  | requeueing m =>
    refine ⟨.queue .proceed, s.requeue m, .handling m, by simp, by simp, ?_⟩
    simp only [stepWorker, hopen, Bool.false_eq_true, if_false, if_neg (Nat.not_le.mpr (hroom ⟨m, rfl⟩))]
  | finished => exact ⟨.queue .proceed, _, _, by simp, by simp, rfl⟩
  | stopped => cases hw

lemma step_worker_eq {autoAck : Bool} {w w' : Worker} {a : Action}
    (h : stepWorker capacity autoAck s w a = some (s', w')) :
    (program capacity name trace).step s (.worker autoAck w) a = some (s', .worker autoAck w') := by
  simp only [program, step, h, Option.map_some]

/-! ### Runs -/

def served (workers : Nat) : Move Request Action → Bool
  | .call (.publish _ _) => true
  | .call _ => false
  | .step tid (.queue .cancel) => decide (workers ≤ tid)
  | _ => true

def isPublish : Move Request Action → Bool
  | .call (.publish _ _) => true
  | _ => false

def publishes (ms : List (Move Request Action)) : Nat := ms.countP isPublish

def load (s : State) (ls : Multiset Thread) : Nat := s.channel.length + (ls.map Thread.load).sum

lemma load_cons (s : State) (l : Thread) (ls : Multiset Thread) :
    load s (l ::ₘ ls) = s.channel.length + l.load + (ls.map Thread.load).sum := by
  unfold load
  rw [Multiset.map_cons, Multiset.sum_cons, Nat.add_assoc]

/-- The first threads are the goroutines of `Consume`, the others are publishers of at most `k` messages. -/
structure Serving (autoAck : Bool) (workers k : Nat) (c : System State Thread) : Prop where
  isOpen : c.shared.channelClosed = false
  consumers : ∀ tid < workers, ∃ w, c.threads[tid]? = some (.worker autoAck w) ∧ w.live autoAck = true
  publishers : ∀ (tid : Nat) (l : Thread), workers ≤ tid → c.threads[tid]? = some l → ∃ p, l = .publish p
  bounded : load c.shared c.threads ≤ k

section Next

variable {autoAck : Bool} {workers k : Nat} {c d : System State Thread} {m : Move Request Action}

lemma step_publish_cases {p : Publish} {l' : Thread} {a : Action}
    (h : step capacity name trace s (.publish p) a = some (s', l')) :
    ∃ p', l' = .publish p' ∧ s'.channel.length + publishLoad p' ≤ s.channel.length + publishLoad p ∧
      s'.channelClosed = s.channelClosed := by
  cases a with
  | queue a =>
    obtain ⟨⟨t, p'⟩, hstep, heq⟩ := Option.map_eq_some_iff.mp h
    cases heq
    unfold stepPublish at hstep
    split at hstep
    · cases hstep
    · obtain ⟨⟨u, q⟩, hqueue, heq⟩ := Option.map_eq_some_iff.mp hstep
      cases heq
      exact ⟨q, rfl, load_publish (publishStep_of_stepPublish hqueue)⟩
  | ack => cases h
  | nack requeue => cases h
  | finish => cases h

lemma Serving.step (h : Serving autoAck workers k c) {tid : Nat} {a : Action} {l l' : Thread}
    (hserved : served workers (.step tid a) = true) (hl : c.threads[tid]? = some l)
    (hstep : step capacity name trace c.shared l a = some (s', l')) :
    s'.channel.length + l'.load ≤ c.shared.channel.length + l.load ∧ s'.channelClosed = false ∧
      (tid < workers → ∃ w, l' = .worker autoAck w ∧ w.live autoAck = true) ∧
      (workers ≤ tid → ∃ p, l' = .publish p) := by
  rcases Nat.lt_or_ge tid workers with htid | htid
  · obtain ⟨w, hw, hlive⟩ := h.consumers tid htid
    cases hl.symm.trans hw
    have ha : a ≠ .queue .cancel := by
      rintro rfl
      exact absurd htid (Nat.not_lt.mpr (of_decide_eq_true hserved))
    obtain ⟨⟨t, w'⟩, hworker, heq⟩ := Option.map_eq_some_iff.mp hstep
    cases heq
    obtain ⟨hload, hopen, hlive'⟩ := step_worker h.isOpen hlive ha hworker
    exact ⟨hload, hopen, fun _ => ⟨w', rfl, hlive'⟩, fun hge => absurd htid (Nat.not_lt.mpr hge)⟩
  · obtain ⟨p, rfl⟩ := h.publishers tid l htid hl
    obtain ⟨p', rfl, hload, hclosed⟩ := step_publish_cases hstep
    exact ⟨hload, hclosed.trans h.isOpen, fun hlt => absurd hlt (Nat.not_lt.mpr htid), fun _ => ⟨p', rfl⟩⟩

lemma Serving.call (h : Serving autoAck workers k c) (msg : Option Message) (opts : List PublishOption) :
    Serving autoAck workers (k + 1) ⟨{ c.shared with nextRef := c.shared.nextRef + 1 },
      c.threads ++ [.publish { msg := msg, opts := opts, ref := c.shared.nextRef }]⟩ := by
  constructor
  case isOpen => exact h.isOpen
  case consumers =>
    intro tid htid
    obtain ⟨w, hw, hlive⟩ := h.consumers tid htid
    exact ⟨w, (List.getElem?_append_left (List.getElem?_eq_some_iff.mp hw).1).trans hw, hlive⟩
  case publishers =>
    intro tid l htid hl
    rcases List.mem_append.mp (List.mem_of_getElem? hl) with hmem | hmem
    · rcases Nat.lt_or_ge tid c.threads.length with hlt | hge
      · exact h.publishers tid l htid ((List.getElem?_append_left hlt).symm.trans hl)
      · rw [List.getElem?_append_right hge] at hl
        exact ⟨_, (List.mem_singleton.mp (List.mem_of_getElem? hl))⟩
    · exact ⟨_, List.mem_singleton.mp hmem⟩
  case bounded =>
    have hbounded := h.bounded
    have hthreads : ((c.threads ++ [.publish { msg := msg, opts := opts, ref := c.shared.nextRef }] : List Thread) :
        Multiset Thread) = .publish { msg := msg, opts := opts, ref := c.shared.nextRef } ::ₘ c.threads :=
      Multiset.coe_eq_coe.mpr (List.perm_append_singleton _ _)
    rw [hthreads, load_cons]
    unfold load at hbounded
    change c.shared.channel.length + 1 + _ ≤ k + 1
    omega

lemma Serving.next (h : Serving autoAck workers k c) (hserved : served workers m = true)
    (hnext : (program capacity name trace).next c m = some d) :
    Serving autoAck workers (k + (isPublish m).toNat) d := by
  cases m with
  | call i =>
    cases i with
    | publish msg opts =>
      cases hnext
      exact h.call msg opts
    | close => cases hserved
    | worker autoAck => cases hserved
  | step tid a =>
    obtain ⟨l, hl, hnext⟩ := Option.bind_eq_some_iff.mp hnext
    obtain ⟨⟨s', l'⟩, hstep, rfl⟩ := Option.map_eq_some_iff.mp hnext
    obtain ⟨hload, hopen, hworker, hpublisher⟩ := h.step hserved hl hstep
    obtain ⟨hlt, -⟩ := List.getElem?_eq_some_iff.mp hl
    constructor
    case isOpen => exact hopen
    case consumers =>
      intro j hj
      by_cases htid : tid = j
      · obtain ⟨w, rfl, hlive⟩ := hworker (htid ▸ hj)
        exact ⟨w, htid ▸ List.getElem?_set_self hlt, hlive⟩
      · obtain ⟨w, hw, hlive⟩ := h.consumers j hj
        exact ⟨w, (List.getElem?_set_ne htid).trans hw, hlive⟩
    case publishers =>
      intro j k hj hk
      by_cases htid : tid = j
      · obtain ⟨p, rfl⟩ := hpublisher (htid ▸ hj)
        refine ⟨p, ?_⟩
        rw [← htid, List.getElem?_set_self hlt] at hk
        exact (Option.some.inj hk).symm
      · exact h.publishers j k hj ((List.getElem?_set_ne htid).symm.trans hk)
    case bounded =>
      have hbounded := h.bounded
      rw [coe_eq_cons_of_getElem? hl, load_cons] at hbounded
      rw [coe_set_eq_cons hl, load_cons]
      change s'.channel.length + l'.load + _ ≤ k + 0
      omega
  | meet tid tid' =>
    simp only [Program.next] at hnext
    split_ifs at hnext
    obtain ⟨l, -, hnext⟩ := Option.bind_eq_some_iff.mp hnext
    obtain ⟨l', -, hnext⟩ := Option.bind_eq_some_iff.mp hnext
    cases hnext

lemma Serving.run {ms : List (Move Request Action)} (h : Serving autoAck workers k c)
    (hserved : ms.all (served workers) = true) (hrun : run (program capacity name trace).next c ms = some d) :
    Serving autoAck workers (k + publishes ms) d := by
  induction ms generalizing c k with
  | nil =>
    cases hrun
    exact h
  | cons m ms ih =>
    obtain ⟨b, hb, hrest⟩ := run_cons hrun
    obtain ⟨hm, hms⟩ := Bool.and_eq_true_iff.mp hserved
    have hnext := ih (h.next hm hb) hms hrest
    rw [publishes, List.countP_cons]
    cases hp : isPublish m with
    | true =>
      rw [hp] at hnext
      simpa [publishes, Nat.add_assoc, Nat.add_comm 1] using hnext
    | false =>
      rw [hp] at hnext
      simpa [publishes] using hnext

end Next

lemma serving_consume (co : ConsumeOptions) (cfg : Option Config) :
    Serving co.autoAck (Memory.concurrency co cfg) 0 (consume co cfg) := by
  constructor
  case isOpen => rfl
  case consumers => exact fun tid htid => ⟨.idle, List.getElem?_replicate_of_lt htid, rfl⟩
  case publishers =>
    intro tid l htid hl
    rw [consume, List.getElem?_replicate, if_neg (Nat.not_lt.mpr htid)] at hl
    cases hl
  case bounded =>
    apply Nat.le_of_eq
    change 0 + (((consume co cfg).threads : Multiset Thread).map Thread.load).sum = 0
    simp [consume, Thread.load, Worker.load]

/-! ### Deadlocks -/

/-- Every goroutine of `Consume` waits in the send of a requeue, on a full channel. -/
def Deadlocked (capacity workers : Nat) (c : System State Thread) : Prop :=
  capacity ≤ c.shared.channel.length ∧
    ∀ tid < workers, ∃ autoAck m, c.threads[tid]? = some (.worker autoAck (.requeueing m))

def CanMove (capacity workers : Nat) (name : String) (trace : Headers) (c : System State Thread) : Prop :=
  ∃ tid < workers, ∃ a d, a ≠ .queue .cancel ∧ (∀ n, a ≠ .queue (.tick n)) ∧
    (program capacity name trace).next c (.step tid a) = some d

lemma le_sum_load {n : Nat} {ls : List Thread} (h : ∀ tid < n, ∃ l, ls[tid]? = some l ∧ 1 ≤ l.load) :
    n ≤ (ls.map Thread.load).sum := by
  induction n generalizing ls with
  | zero => exact Nat.zero_le _
  | succ n ih =>
    cases ls with
    | nil =>
      obtain ⟨l, hl, -⟩ := h 0 (Nat.succ_pos n)
      cases hl
    | cons l ls =>
      obtain ⟨l', hl', hload⟩ := h 0 (Nat.succ_pos n)
      cases hl'
      have hrest := ih fun tid htid => h (tid + 1) (Nat.succ_lt_succ htid)
      rw [List.map_cons, List.sum_cons]
      omega

section Deadlock

variable {autoAck : Bool} {workers k : Nat} {c : System State Thread}

lemma Serving.le_of_deadlocked (h : Serving autoAck workers k c) (hdead : Deadlocked capacity workers c) :
    capacity + workers ≤ k := by
  have hsum : workers ≤ (c.threads.map Thread.load).sum := by
    apply le_sum_load
    intro tid htid
    obtain ⟨_, m, hm⟩ := hdead.2 tid htid
    exact ⟨_, hm, le_rfl⟩
  have hbounded := h.bounded
  unfold load at hbounded
  rw [Multiset.map_coe, Multiset.sum_coe] at hbounded
  have hfull := hdead.1
  omega

lemma Serving.not_deadlocked_of_autoAck (h : Serving true workers k c) (hpos : 0 < workers) :
    ¬Deadlocked capacity workers c := by
  intro hdead
  obtain ⟨w, hw, hlive⟩ := h.consumers 0 hpos
  obtain ⟨_, m, hm⟩ := hdead.2 0 hpos
  cases hw.symm.trans hm
  simp [Worker.live] at hlive

lemma Serving.canMove (h : Serving autoAck workers k c) (hpos : 0 < workers)
    (hdead : ¬Deadlocked capacity workers c) (hchannel : c.shared.channel ≠ []) :
    CanMove capacity workers name trace c := by
  obtain ⟨tid, htid, w, hw, hlive, hroom⟩ : ∃ tid < workers, ∃ w, c.threads[tid]? = some (.worker autoAck w) ∧
      w.live autoAck = true ∧ ((∃ m, w = .requeueing m) → c.shared.channel.length < capacity) := by
    rcases Nat.lt_or_ge c.shared.channel.length capacity with hroom | hfull
    · obtain ⟨w, hw, hlive⟩ := h.consumers 0 hpos
      exact ⟨0, hpos, w, hw, hlive, fun _ => hroom⟩
    · -- on a full channel one of them does not requeue
      by_contra hall
      refine hdead ⟨hfull, fun tid htid => ?_⟩
      obtain ⟨w, hw, hlive⟩ := h.consumers tid htid
      by_contra hnot
      refine hall ⟨tid, htid, w, hw, hlive, ?_⟩
      rintro ⟨m, rfl⟩
      exact absurd ⟨autoAck, m, hw⟩ hnot
  obtain ⟨a, s', w', hcancel, htick, hstep⟩ := exists_step_worker h.isOpen hlive hchannel hroom
  exact ⟨tid, htid, a, _, hcancel, htick, Program.next_step hw (step_worker_eq hstep)⟩

lemma Deadlocked.not_canMove (hdead : Deadlocked capacity workers c) (hopen : c.shared.channelClosed = false) :
    ¬CanMove capacity workers name trace c := by
  rintro ⟨tid, htid, a, d, -, htick, hnext⟩
  obtain ⟨autoAck, m, hm⟩ := hdead.2 tid htid
  obtain ⟨l, hl, hnext⟩ := Option.bind_eq_some_iff.mp hnext
  cases hm.symm.trans hl
  obtain ⟨r, hstep, -⟩ := Option.map_eq_some_iff.mp hnext
  obtain ⟨r', hworker, -⟩ := Option.map_eq_some_iff.mp hstep
  unfold stepWorker at hworker
  split at hworker
  all_goals try contradiction
  · rw [if_neg (Bool.eq_false_iff.mp hopen), if_pos hdead.1] at hworker
    cases hworker
  · exact absurd rfl (htick _)

end Deadlock

/-- In no run with at most `k` publishes do the goroutines of `Consume` block each other. -/
def NeverDeadlocks (bufferSize : Int) (co : ConsumeOptions) (cfg : Option Config) (name : String) (trace : Headers)
    (k : Nat) : Prop :=
  ∀ ms c, ms.all (served (Memory.concurrency co cfg)) = true → publishes ms ≤ k →
    run (program (Memory.channelCapacity bufferSize) name trace).next (consume co cfg) ms = some c →
    ¬Deadlocked (Memory.channelCapacity bufferSize) (Memory.concurrency co cfg) c ∧
      (c.shared.channel ≠ [] →
        CanMove (Memory.channelCapacity bufferSize) (Memory.concurrency co cfg) name trace c)

lemma concurrency_pos (co : ConsumeOptions) (cfg : Option Config) : 0 < Memory.concurrency co cfg := by
  unfold Memory.concurrency
  split
  · omega
  · split
    · split
      · omega
      · exact Nat.one_pos
    · exact Nat.one_pos

lemma channelCapacity_pos (bufferSize : Int) : 0 < Memory.channelCapacity bufferSize := by
  unfold Memory.channelCapacity
  split <;> omega

lemma neverDeadlocks {bufferSize : Int} {co : ConsumeOptions} {cfg : Option Config} {k : Nat}
    (h : co.autoAck = true ∨ k < Memory.channelCapacity bufferSize + Memory.concurrency co cfg) :
    NeverDeadlocks bufferSize co cfg name trace k := by
  intro ms c hserved hpublishes hrun
  have hserving := (serving_consume co cfg).run hserved hrun
  have hdead : ¬Deadlocked (Memory.channelCapacity bufferSize) (Memory.concurrency co cfg) c := by
    rcases h with hauto | hfew
    · rw [hauto] at hserving
      exact hserving.not_deadlocked_of_autoAck (concurrency_pos co cfg)
    · intro hdead
      have hle := hserving.le_of_deadlocked hdead
      omega
  exact ⟨hdead, hserving.canMove (concurrency_pos co cfg) hdead⟩

/-! ### How a deadlock comes about -/

def plainPublish (name : String) (trace : Headers) (ref : Nat) (caller : Caller) : Publish :=
  { msg := some {}, opts := [], ref := ref, item := (Memory.prepare name trace {} []).clone, caller := caller }

lemma step_publish_eq {p p' : Publish} {t : MemoryQueue.State} (hroom : s.channel.length < capacity)
    (h : stepCaller name trace s.toState p = some (t, p')) :
    (program capacity name trace).step s (.publish p) (.queue .proceed) =
      some ({ s with toState := t }, .publish p') := by
  have hfull : s.full capacity = false := by
    simp [State.full, hroom]
  have hblocked : blocked capacity s p .proceed = false := by
    simp [blocked, hfull]
  simp only [program, step, stepPublish, hblocked, Bool.false_eq_true, if_false, MemoryQueue.stepPublish, h,
    Option.map_some]

lemma run_plainPublish {ls : List Thread} {ref : Nat} (hclosed : s.closed = false) (hopen : s.channelClosed = false)
    (hroom : s.channel.length < capacity) :
    run (program capacity name trace).next ⟨s, ls ++ [.publish { msg := some {}, opts := [], ref := ref }]⟩
      (List.replicate 4 (.step ls.length (.queue .proceed))) =
      some ⟨{ s with channel := s.channel ++ [(ref, (Memory.prepare name trace {} []).clone)] },
        ls ++ [.publish (plainPublish name trace ref (.returning none))]⟩ := by
  have hentered : stepCaller name trace s.toState { msg := some {}, opts := [], ref := ref } =
      some (s.toState, { msg := some {}, opts := [], ref := ref, caller := .admitted }) := by
    simp only [stepCaller, hclosed, Bool.false_eq_true, if_false]
  have hsending : stepCaller name trace s.toState (plainPublish name trace ref .sending) =
      some (s.toState.push (plainPublish name trace ref .sending),
        plainPublish name trace ref (.returning none)) := by
    change (if s.channelClosed = true then _ else _) = _
    rw [if_neg (Bool.eq_false_iff.mp hopen)]
    rfl
  have hstep1 : (program capacity name trace).step s (.publish { msg := some {}, opts := [], ref := ref })
      (.queue .proceed) = some (s, .publish { msg := some {}, opts := [], ref := ref, caller := .admitted }) :=
    step_publish_eq hroom hentered
  have hstep2 : (program capacity name trace).step s
      (.publish { msg := some {}, opts := [], ref := ref, caller := .admitted }) (.queue .proceed) =
      some (s, .publish (plainPublish name trace ref .checking)) := step_publish_eq hroom rfl
  have hstep3 : (program capacity name trace).step s (.publish (plainPublish name trace ref .checking))
      (.queue .proceed) = some (s, .publish (plainPublish name trace ref .sending)) := step_publish_eq hroom rfl
  have hstep4 := step_publish_eq hroom hsending
  simp only [List.replicate, run]
  rw [Program.next_step_last hstep1, Option.bind_some, Program.next_step_last hstep2, Option.bind_some,
    Program.next_step_last hstep3, Option.bind_some, Program.next_step_last hstep4, Option.bind_some]
  rfl

def publishMoves (tid : Nat) : List (Move Request Action) :=
  .call (.publish (some {}) []) :: List.replicate 4 (.step tid (.queue .proceed))

lemma run_publishMoves {ls : List Thread} (hclosed : s.closed = false) (hopen : s.channelClosed = false)
    (hroom : s.channel.length < capacity) :
    run (program capacity name trace).next ⟨s, ls⟩ (publishMoves ls.length) =
      some ⟨{ s with
        channel := s.channel ++ [(s.nextRef, (Memory.prepare name trace {} []).clone)]
        nextRef := s.nextRef + 1 }, ls ++ [.publish (plainPublish name trace s.nextRef (.returning none))]⟩ :=
  run_plainPublish (s := { s with nextRef := s.nextRef + 1 }) hclosed hopen hroom

def nackMoves (tid : Nat) : List (Move Request Action) :=
  [.step tid (.queue .proceed), .step tid (.queue .proceed), .step tid (.nack true)]

lemma run_nackMoves {ls : List Thread} {tid : Nat} {entry : Nat × Message} (hchannel : s.channel = [entry])
    (hack : entry.2.acknowledged = false) (hidle : ls[tid]? = some (.worker false .idle)) :
    ∃ m, run (program capacity name trace).next ⟨s, ls⟩ (nackMoves tid) =
      some ⟨{ s with channel := [], inFlight := s.inFlight + 1 }, ls.set tid (.worker false (.requeueing m))⟩ := by
  obtain ⟨hlt, -⟩ := List.getElem?_eq_some_iff.mp hidle
  have hreceive : stepWorker capacity false s .idle (.queue .proceed) =
      some ({ s with channel := [] }, .received entry.2) := by
    simp only [stepWorker, hchannel]
  have hnack : stepWorker capacity false { s with channel := [], inFlight := s.inFlight + 1 }
      (.handling { entry.2 with acknowledged := entry.2.acknowledged || false }) (.nack true) =
      some ({ s with channel := [], inFlight := s.inFlight + 1 },
        .requeueing { entry.2 with acknowledged := true }) := by
    simp only [stepWorker, hack, Bool.or_false, Bool.false_eq_true, if_false, if_true]
  refine ⟨{ entry.2 with acknowledged := true }, ?_⟩
  simp only [nackMoves, run]
  rw [Program.next_step hidle (step_worker_eq hreceive), Option.bind_some,
    Program.next_step (List.getElem?_set_self hlt) (step_worker_eq rfl), Option.bind_some, List.set_set,
    Program.next_step (List.getElem?_set_self hlt) (step_worker_eq hnack), Option.bind_some, List.set_set]

lemma publishes_append (ms ms' : List (Move Request Action)) : publishes (ms ++ ms') = publishes ms + publishes ms' :=
  List.countP_append

/-- A run of publishes and of steps of `Consume`, with so many publishes. -/
def ServedRun (capacity : Nat) (co : ConsumeOptions) (cfg : Option Config) (name : String) (trace : Headers)
    (k : Nat) (c : System State Thread) : Prop :=
  ∃ ms, ms.all (served (Memory.concurrency co cfg)) = true ∧ publishes ms = k ∧
    run (program capacity name trace).next (consume co cfg) ms = some c

section Filling

variable {co : ConsumeOptions} {cfg : Option Config} {i k : Nat} {c d : System State Thread}

lemma ServedRun.append {more : List (Move Request Action)} (h : ServedRun capacity co cfg name trace k c)
    (hserved : more.all (served (Memory.concurrency co cfg)) = true)
    (hrun : run (program capacity name trace).next c more = some d) :
    ServedRun capacity co cfg name trace (k + publishes more) d := by
  obtain ⟨ms, hms, rfl, hc⟩ := h
  refine ⟨ms ++ more, ?_, publishes_append ms more, run_append_of hc hrun⟩
  rw [List.all_append, hms, hserved]
  rfl

structure Loaded (workers i : Nat) (c : System State Thread) : Prop where
  closed : c.shared.closed = false
  isOpen : c.shared.channelClosed = false
  requeueing : ∀ tid < i, ∃ m, c.threads[tid]? = some (.worker false (.requeueing m))
  idle : ∀ tid, i ≤ tid → tid < workers → c.threads[tid]? = some (.worker false .idle)

lemma Loaded.publish (h : Loaded (Memory.concurrency co cfg) i c) (hrun : ServedRun capacity co cfg name trace k c)
    (hroom : c.shared.channel.length < capacity) :
    ∃ d entry, ServedRun capacity co cfg name trace (k + 1) d ∧ Loaded (Memory.concurrency co cfg) i d ∧
      d.shared.channel = c.shared.channel ++ [entry] ∧ entry.2.acknowledged = false := by
  refine ⟨_, _, hrun.append rfl (run_publishMoves h.closed h.isOpen hroom), ⟨h.closed, h.isOpen, ?_, ?_⟩, rfl, rfl⟩
  · intro tid htid
    obtain ⟨m, hm⟩ := h.requeueing tid htid
    exact ⟨m, (List.getElem?_append_left (List.getElem?_eq_some_iff.mp hm).1).trans hm⟩
  · intro tid hi htid
    have hidle := h.idle tid hi htid
    exact (List.getElem?_append_left (List.getElem?_eq_some_iff.mp hidle).1).trans hidle

lemma Loaded.nack {entry : Nat × Message} (h : Loaded (Memory.concurrency co cfg) i c)
    (hrun : ServedRun capacity co cfg name trace k c) (hi : i < Memory.concurrency co cfg)
    (hchannel : c.shared.channel = [entry]) (hack : entry.2.acknowledged = false) :
    ∃ d, ServedRun capacity co cfg name trace k d ∧ Loaded (Memory.concurrency co cfg) (i + 1) d ∧
      d.shared.channel = [] := by
  have hidle := h.idle i le_rfl hi
  obtain ⟨hlt, -⟩ := List.getElem?_eq_some_iff.mp hidle
  obtain ⟨m, hnack⟩ := run_nackMoves hchannel hack hidle
  refine ⟨_, hrun.append rfl hnack, ⟨h.closed, h.isOpen, ?_, ?_⟩, rfl⟩
  · intro tid htid
    by_cases heq : i = tid
    · exact ⟨m, heq ▸ List.getElem?_set_self hlt⟩
    · exact (h.requeueing tid (by omega)).imp fun _ hm => (List.getElem?_set_ne heq).trans hm
  · intro tid htid hworkers
    exact (List.getElem?_set_ne (by omega)).trans (h.idle tid (by omega) hworkers)

lemma exists_loaded (hauto : co.autoAck = false) (hcapacity : 0 < capacity) (hi : i ≤ Memory.concurrency co cfg) :
    ∃ c, ServedRun capacity co cfg name trace i c ∧ Loaded (Memory.concurrency co cfg) i c ∧
      c.shared.channel = [] := by
  induction i with
  | zero =>
    refine ⟨consume co cfg, ⟨[], rfl, rfl, rfl⟩, ⟨rfl, rfl, ?_, ?_⟩, rfl⟩
    · exact fun tid htid => absurd htid (Nat.not_lt_zero tid)
    · intro tid _ htid
      rw [consume, hauto]
      exact List.getElem?_replicate_of_lt htid
  | succ i ih =>
    obtain ⟨c, hrun, hloaded, hempty⟩ := ih (Nat.le_of_succ_le hi)
    have hroom : c.shared.channel.length < capacity := by
      rw [hempty]
      exact hcapacity
    obtain ⟨d, entry, hrun', hloaded', hchannel, hack⟩ := hloaded.publish hrun hroom
    rw [hempty] at hchannel
    exact hloaded'.nack hrun' hi hchannel hack

lemma exists_filled (hauto : co.autoAck = false) (hcapacity : 0 < capacity) {j : Nat} (hj : j ≤ capacity) :
    ∃ c, ServedRun capacity co cfg name trace (Memory.concurrency co cfg + j) c ∧
      Loaded (Memory.concurrency co cfg) (Memory.concurrency co cfg) c ∧ c.shared.channel.length = j := by
  induction j with
  | zero =>
    obtain ⟨c, hrun, hloaded, hempty⟩ := exists_loaded hauto hcapacity le_rfl
    exact ⟨c, hrun, hloaded, congrArg List.length hempty⟩
  | succ j ih =>
    obtain ⟨c, hrun, hloaded, hlength⟩ := ih (Nat.le_of_succ_le hj)
    obtain ⟨d, entry, hrun', hloaded', hchannel, -⟩ := hloaded.publish hrun (hlength ▸ hj)
    refine ⟨d, hrun', hloaded', ?_⟩
    rw [hchannel, List.length_append, hlength]
    rfl

lemma not_neverDeadlocks {bufferSize : Int} (hauto : co.autoAck = false)
    (hmany : Memory.channelCapacity bufferSize + Memory.concurrency co cfg ≤ k) :
    ¬NeverDeadlocks bufferSize co cfg name trace k := by
  intro hnever
  obtain ⟨c, ⟨ms, hserved, hpublishes, hrun⟩, hloaded, hlength⟩ : ∃ c,
      ServedRun (Memory.channelCapacity bufferSize) co cfg name trace
        (Memory.concurrency co cfg + Memory.channelCapacity bufferSize) c ∧ _ :=
    exists_filled hauto (channelCapacity_pos bufferSize) le_rfl
  refine (hnever ms c hserved (by omega) hrun).1 ⟨hlength.ge, ?_⟩
  exact fun tid htid => ⟨false, hloaded.requeueing tid htid⟩

end Filling

end MailBaby.MemoryConsumer

namespace MailBaby.Proofs

open Lib MemoryConsumer

/-- Requeueing cannot block all goroutines of `Consume` exactly when there is nothing to requeue, or too few
messages to fill the channel and keep every goroutine busy. -/
theorem requeue_never_deadlocks_iff (bufferSize : Int) (co : ConsumeOptions) (cfg : Option Config) (name : String)
    (trace : Headers) (k : Nat) :
    NeverDeadlocks bufferSize co cfg name trace k ↔
      co.autoAck = true ∨ k < Memory.channelCapacity bufferSize + Memory.concurrency co cfg := by
  constructor
  · intro hnever
    by_contra hnot
    obtain ⟨hauto, hmany⟩ := not_or.mp hnot
    exact not_neverDeadlocks (Bool.eq_false_iff.mpr hauto) (Nat.not_lt.mp hmany) hnever
  · exact neverDeadlocks

/-- One goroutine and one place: while the handler has the first message a second one fills the channel, and
the requeue of the first waits for room that only its own goroutine can make. -/
theorem requeue_deadlocks :
    ∃ c, run (program (Memory.channelCapacity 1) "mail" ∅).next (consume {} none)
        (publishMoves 1 ++ nackMoves 0 ++ publishMoves 2) = some c ∧
      (publishMoves 1 ++ nackMoves 0 ++ publishMoves 2).all (served (Memory.concurrency {} none)) = true ∧
      Deadlocked (Memory.channelCapacity 1) (Memory.concurrency {} none) c ∧ c.shared.channel ≠ [] ∧
      ¬CanMove (Memory.channelCapacity 1) (Memory.concurrency {} none) "mail" ∅ c := by
  obtain ⟨c, hrun, hopen, hchannel, hworker⟩ : ∃ c,
      run (program (Memory.channelCapacity 1) "mail" ∅).next (consume {} none)
        (publishMoves 1 ++ nackMoves 0 ++ publishMoves 2) = some c ∧ c.shared.channelClosed = false ∧
      c.shared.channel.length = 1 ∧ ∃ m, c.threads[0]? = some (.worker false (.requeueing m)) :=
    ⟨_, rfl, rfl, rfl, _, rfl⟩
  have hdead : Deadlocked (Memory.channelCapacity 1) (Memory.concurrency {} none) c := by
    refine ⟨hchannel.ge, fun tid htid => ?_⟩
    obtain rfl : tid = 0 := Nat.lt_one_iff.mp htid
    exact ⟨false, hworker⟩
  refine ⟨c, hrun, rfl, hdead, ?_, hdead.not_canMove hopen⟩
  intro hempty
  rw [hempty] at hchannel
  cases hchannel

end MailBaby.Proofs
