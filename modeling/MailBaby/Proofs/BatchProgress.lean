import Mathlib.Algebra.BigOperators.Group.Finset.Basic
import MailBaby.Proofs.BatchPools

/-!
# Batches come to an end

Every step but a tick of a rate limiter or the end of a context brings the calls nearer to their return, so a
run has only so many of them; and while a call has not returned, there is always such a step to take, at once
or after a tick.
-/

namespace MailBaby.SendBatch

open Lib Lib.Mime Smtp Sender

variable {m : MultiAccountSender} {codec : Codec} {s s' : State} {g g' : Goroutine} {key : String}
variable {id : Nat} {j : Job} {ms : List (Move Request Action)} {client : Pool.Conn}

/-! ### How much is left to do -/

/-- An upper bound of the steps that a goroutine has left, but for those that idle clients cost it. -/
def Phase.rank : Phase → Nat
  | .entering => 27
  | .refused _ => 2
  | .sending => 26
  | .checking _ => 25
  | .limiting _ => 24
  | .building _ => 23
  | .acquiring _ _ l => 16 + l.rank
  | .transmitting _ _ _ => 15
  | .releasing _ _ _ l => 5 + l.rank
  | .counting _ _ => 4
  | .storing _ => 3
  | .leaving _ => 2
  | .exiting _ => 1
  | .finished _ => 0

def Thread.rank : Thread → Nat
  | goroutine g => g.phase.rank
  | caller _ none => 1
  | _ => 0

def BatchCall.rank (c : BatchCall) : Nat := 28 * (c.emails.length - c.started)

def State.idle (m : MultiAccountSender) (s : State) : Nat :=
  ∑ key ∈ m.accounts.keys.toFinset, (s.accounts key).pool.idleConns.length

def rank (m : MultiAccountSender) (s : State) (ls : Multiset Thread) : Nat :=
  (ls.map Thread.rank).sum + 5 * s.idle m + (s.calls.map BatchCall.rank).sum

lemma idle_setPool {acc : AccountSender} (hacc : m.accounts.lookup key = some acc) (p : Pool.State) :
    (s.setPool key p).idle m + (s.accounts key).pool.idleConns.length = s.idle m + p.idleConns.length := by
  have hmem : key ∈ m.accounts.keys.toFinset := by
    rw [List.mem_toFinset, ← AList.mem_keys, ← AList.lookup_isSome, hacc]
    rfl
  have hrest : ∑ k ∈ m.accounts.keys.toFinset.erase key, ((s.setPool key p).accounts k).pool.idleConns.length =
      ∑ k ∈ m.accounts.keys.toFinset.erase key, (s.accounts k).pool.idleConns.length := by
    apply Finset.sum_congr rfl
    intro k hk
    rw [pool_setPool_of_ne (Finset.ne_of_mem_erase hk)]
  unfold State.idle
  rw [← Finset.add_sum_erase _ _ hmem, ← Finset.add_sum_erase (a := key) _ _ hmem, hrest, pool_setPool_self]
  omega

lemma idle_updateAccount {f : Account → Account} (hf : ∀ a, (f a).pool = a.pool) :
    (s.updateAccount key f).idle m = s.idle m := by
  unfold State.idle
  apply Finset.sum_congr rfl
  intro k _
  rw [pool_updateAccount hf]

lemma idle_updateCall {f : BatchCall → BatchCall} : (s.updateCall id f).idle m = s.idle m := rfl

lemma calls_updateCall {f : BatchCall → BatchCall} : (s.updateCall id f).calls = s.calls.modify id f := rfl

lemma rank_acquired (g : Goroutine) (j : Job) (data : Text) (l : Pool.Call) :
    (acquired g j data l).phase.rank ≤ 16 + l.rank := by
  unfold acquired
  split
  · exact Nat.le_add_right_of_le (Nat.le_succ 15)
  · exact Nat.le_add_right_of_le (Nat.le_add_right 4 12)
  · exact le_rfl

lemma rank_released (g : Goroutine) (j : Job) (client : Pool.Conn) (err : Option GoError) (l : Pool.Call) :
    (released g j client err l).phase.rank ≤ 5 + l.rank := by
  unfold released
  split
  · exact Nat.le_add_right_of_le (Nat.le_succ 4)
  · exact le_rfl

lemma rank_goroutine (hsound : g.Sound m codec) (hat : g.phase.atPool = true)
    (h : GoroutineStep m codec s g g.phase s' g') (hcrashed : s'.crashed = false) :
    g'.phase.rank + 5 * s'.idle m < g.phase.rank + 5 * s.idle m := by
  unfold Goroutine.Sound at hsound
  generalize g.phase = p at h hsound hat ⊢
  cases h with
  | acquire j data l l' b p hctx hstep =>
    have hlt := (Pool.callStep_of_step hstep).rank_lt (.inl hat)
    have hidle := idle_setPool (s := s) hsound.1.lookup_eq p
    have hle := rank_acquired g j data l'
    change _ < 16 + l.rank + _
    omega
  | release j client err l l' b p hstep =>
    have hlt := (Pool.callStep_of_step hstep).rank_lt (.inr hat)
    have hidle := idle_setPool (s := s) hsound.1.lookup_eq p
    have hle := rank_released g j client err l'
    change _ < 5 + l.rank + _
    omega
  | delivered j data client err =>
    have hidle := idle_setPool (s := s) hsound.1.lookup_eq
      { (s.accounts j.key).pool with lent := (s.accounts j.key).pool.lent.erase client }
    simp only [Goroutine.log, Phase.rank, Pool.Call.rank] at hidle ⊢
    omega
  | token j =>
    rw [idle_updateAccount]
    · simp [Goroutine.goto, Phase.rank]
    · exact fun _ => rfl
  | counted j err =>
    rw [idle_updateAccount fun a => pool_count a err]
    simp [Goroutine.goto, Phase.rank]
  | crashed j env => cases hcrashed
  | _ =>
    change _ + 5 * s.idle m < _ + 5 * s.idle m
    simp [Goroutine.goto, Goroutine.log, Phase.rank, Pool.Call.rank]

lemma sum_rank_started {calls : List BatchCall} {call : BatchCall} (hcall : calls[id]? = some call)
    (hlt : call.started < call.emails.length) :
    ((calls.modify id fun c => { c with started := c.started + 1, wg := c.wg + 1 }).map BatchCall.rank).sum + 28 =
      (calls.map BatchCall.rank).sum := by
  induction calls generalizing id with
  | nil => cases hcall
  | cons c calls ih =>
    cases id with
    | zero =>
      cases hcall
      simp only [List.modify_zero_cons, List.map_cons, List.sum_cons, BatchCall.rank]
      omega
    | succ id =>
      have hrest := ih hcall
      simp only [List.modify_succ_cons, List.map_cons, List.sum_cons]
      omega

/-- All moves but new calls, ticks and the ends of contexts. -/
def effective : Move Request Action → Bool
  | .call (.sendBatch _) => false
  | .step _ (.cancel _) => false
  | .step _ .tick => false
  | _ => true

def cost : Move Request Action → Nat
  | .call (.sendBatch emails) => 28 * emails.length + 1
  | _ => 0

section Next

variable {c d : System State Thread} {mv : Move Request Action}

lemma rank_call {i : Request} {l : Thread} {rest : Multiset Thread} (h : CallStep s i s' l) :
    rank m s' (l ::ₘ rest) + (effective (.call i)).toNat ≤ rank m s rest + cost (.call i) := by
  cases h with
  | batch emails =>
    have hidle : State.idle m
        { s with calls := s.calls ++ [{ emails := emails, errorsList := List.replicate emails.length none }] } =
        s.idle m := rfl
    simp only [rank, hidle, Multiset.map_cons, Multiset.sum_cons, List.map_append, List.sum_append, List.map_cons,
      List.map_nil, List.sum_cons, List.sum_nil, Thread.rank, BatchCall.rank, cost, effective, Bool.toNat_false]
    omega
  | started id call item hcall hitem =>
    obtain ⟨hlt, -⟩ := List.getElem?_eq_some_iff.mp hitem
    have hsum := sum_rank_started hcall hlt
    simp only [rank, idle_updateCall, calls_updateCall, Multiset.map_cons, Multiset.sum_cons, Thread.rank, Phase.rank,
      effective, cost, Bool.toNat_true]
    omega

lemma rank_step {l l' : Thread} {a : Action} {tid : Nat} {rest : Multiset Thread}
    (hordered : Ordered m codec s (l ::ₘ rest)) (h : ThreadStep m codec s l a s' l') (hcrashed : s'.crashed = false) :
    rank m s' (l' ::ₘ rest) + (effective (.step tid a)).toNat ≤ rank m s (l ::ₘ rest) := by
  simp only [rank, Multiset.map_cons, Multiset.sum_cons]
  cases h with
  | returned id call hcall =>
    simp only [Thread.rank, effective, Bool.toNat_true]
    omega
  | cancelled id results err =>
    have hcalls : (s.calls.modify id fun c => { c with ctxErr := c.ctxErr <|> some err }).map BatchCall.rank =
        s.calls.map BatchCall.rank := by
      apply map_modify_of
      exact fun _ => rfl
    rw [idle_updateCall, calls_updateCall, hcalls]
    exact le_rfl
  | moved g g' _ hmove =>
    have hlt := rank_goroutine (hordered.sound _ (Multiset.mem_cons_self _ _))
      (hordered.atPool _ (Multiset.mem_cons_self _ _)) hmove hcrashed
    have hcalls := congrArg List.sum ((callEffect_of_step hmove).map_eq (f := BatchCall.rank) (fun _ _ _ => rfl) fun _ => rfl)
    have hone := Bool.toNat_le (effective (.step tid a))
    simp only [Thread.rank]
    omega
  | refilled key =>
    have hidle : (s.updateAccount key fun a => { a with rateLimiter := a.rateLimiter + 1 }).idle m = s.idle m := by
      apply idle_updateAccount
      exact fun _ => rfl
    rw [hidle]
    exact le_rfl
  | full key => exact le_rfl

lemma rank_meet {l k l' k' : Thread} {rest : Multiset Thread} (h : MeetStep s l k s' l' k') :
    rank m s' (l' ::ₘ k' ::ₘ rest) + 1 ≤ rank m s (l ::ₘ k ::ₘ rest) := by
  cases h with
  | handedOver g g' j j' client passed err data hphase hphase' =>
    simp only [rank, Multiset.map_cons, Multiset.sum_cons, Thread.rank, Goroutine.goto, hphase, hphase', Phase.rank,
      Pool.Call.rank]
    omega

lemma rank_next (hordered : Ordered m codec c.shared c.threads) (h : (program m codec).next c mv = some d)
    (hcrashed : d.shared.crashed = false) :
    rank m d.shared d.threads + (effective mv).toNat ≤ rank m c.shared c.threads + cost mv := by
  rcases Program.next_cases h with ⟨i, s, l, rfl, hs, rfl, hd⟩ |
    ⟨tid, a, l, s, l', rest, rfl, -, hs, hrest, rfl, hd⟩ |
    ⟨tid, tid', l, k, s, l', k', rest, rfl, hs, hrest, rfl, hd⟩
  · rw [hd]
    exact rank_call (callStep_of_call hs).2
  · rw [hrest] at hordered
    rw [hd, hrest]
    exact Nat.le_add_right_of_le (rank_step hordered (threadStep_of_step hs).2 hcrashed)
  · rw [hd, hrest]
    exact rank_meet (meetStep_of_meet hs).2

lemma not_crashed_of_next (h : (program m codec).next c mv = some d) : c.shared.crashed = false := by
  rcases Program.next_cases h with ⟨i, s, l, -, hs, -⟩ | ⟨tid, a, l, s, l', rest, -, -, hs, -⟩ |
    ⟨tid, tid', l, k, s, l', k', rest, -, hs, -⟩
  · exact (callStep_of_call hs).1
  · exact (threadStep_of_step hs).1
  · exact (meetStep_of_meet hs).1

lemma not_crashed_of_run (h : run (program m codec).next c ms = some d)
    (hcrashed : d.shared.crashed = false) : c.shared.crashed = false := by
  cases ms with
  | nil =>
    cases h
    exact hcrashed
  | cons mv ms =>
    obtain ⟨b, hb, -⟩ := run_cons h
    exact not_crashed_of_next hb

lemma rank_run (hordered : Ordered m codec c.shared c.threads)
    (h : run (program m codec).next c ms = some d) (hcrashed : d.shared.crashed = false) :
    rank m d.shared d.threads + ms.countP effective ≤ rank m c.shared c.threads + (ms.map cost).sum := by
  induction ms generalizing c with
  | nil =>
    cases h
    exact le_rfl
  | cons mv ms ih =>
    obtain ⟨b, hb, hrest⟩ := run_cons h
    have hfirst := rank_next hordered hb (not_crashed_of_run hrest hcrashed)
    have hothers := ih (preserves_ordered.next hordered hb) hrest
    rw [List.countP_cons, List.map_cons, List.sum_cons]
    cases heffective : effective mv with
    | false =>
      rw [heffective, Bool.toNat_false] at hfirst
      simp only [Bool.false_eq_true, if_false]
      omega
    | true =>
      rw [heffective, Bool.toNat_true] at hfirst
      rw [if_pos rfl]
      omega

end Next

/-! ### What holds of every run -/

structure Consistent (m : MultiAccountSender) (codec : Codec) (c : System State Thread) : Prop where
  slots : c.shared.batchSem = count Thread.holdsSlot c.threads
  bound : (c.shared.batchSem : Int) ≤ m.batchSem
  tracked : Tracked c.shared.calls c.threads
  ordered : Ordered m codec c.shared c.threads
  totals : ∀ key ok, ((c.shared.accounts key).total ok : Int) =
    ((c.threads : Multiset Thread).map fun l => ((l.countedAs key ok).toNat : Int)).sum
  borrowing : ∀ {key acc}, m.accounts.lookup key = some acc →
    Borrowing (Pool.Consistent acc.pool) key (c.shared.accounts key).pool c.threads
  limiters : ∀ {key acc}, m.accounts.lookup key = some acc → acc.tokens.isSome = true → .limiter key ∈ c.threads

lemma preserves_limiter (key : String) : (program m codec).Preserves fun _ ls => .limiter key ∈ ls where
  call h _ := Multiset.mem_cons_of_mem h
  step := by
    intro s rest l a s' l' h hstep
    rcases Multiset.mem_cons.mp h with rfl | hmem
    · obtain ⟨-, hstepped⟩ := threadStep_of_step hstep
      cases hstepped <;> exact h
    · exact Multiset.mem_cons_of_mem hmem
  meet := by
    intro s rest l k s' l' k' h hmeet
    obtain ⟨-, hmet⟩ := meetStep_of_meet hmeet
    cases hmet
    simpa using h

lemma mem_start_threads {l : Thread} : l ∈ (start m).threads ↔
    ∃ key acc, m.accounts.lookup key = some acc ∧ acc.tokens.isSome = true ∧ l = .limiter key := by
  simp only [start, List.mem_filterMap]
  constructor
  · rintro ⟨⟨key, acc⟩, hmem, heq⟩
    split_ifs at heq with htokens
    cases heq
    exact ⟨key, acc, AList.mem_lookup_iff.mpr hmem, htokens, rfl⟩
  · rintro ⟨key, acc, hacc, htokens, rfl⟩
    exact ⟨⟨key, acc⟩, AList.mem_lookup_iff.mp hacc, if_pos htokens⟩

lemma start_threads {P : Thread → Prop} (h : ∀ key, P (.limiter key)) : ∀ l ∈ ((start m).threads : Multiset Thread), P l := by
  intro l hl
  obtain ⟨key, acc, -, -, rfl⟩ := mem_start_threads.mp hl
  exact h key

lemma bind_start_threads {β : Type} {f : Thread → Multiset β} (h : ∀ key, f (.limiter key) = 0) :
    ((start m).threads : Multiset Thread).bind f = 0 := by
  apply Multiset.eq_zero_of_forall_notMem
  intro b hb
  obtain ⟨l, hl, hmem⟩ := Multiset.mem_bind.mp hb
  obtain ⟨key, acc, -, -, rfl⟩ := mem_start_threads.mp hl
  rw [h key] at hmem
  exact Multiset.notMem_zero b hmem

lemma consistent_start (hsem : 0 ≤ m.batchSem) : Consistent m codec (start m) where
  slots := (count_eq_zero.mpr (start_threads fun _ => rfl)).symm
  bound := hsem
  tracked := by
    constructor
    case tracked =>
      intro id call hcall
      cases hcall
    case known =>
      intro g hg
      obtain ⟨key, acc, -, -, heq⟩ := mem_start_threads.mp hg
      cases heq
    case callers =>
      apply Multiset.eq_zero_of_forall_notMem
      intro id hid
      obtain ⟨l, hl, hcaller⟩ := (Multiset.mem_filterMap _ _).mp hid
      obtain ⟨key, acc, -, -, rfl⟩ := mem_start_threads.mp hl
      cases hcaller
  ordered := ⟨start_threads fun _ => trivial, start_threads fun _ => rfl, fun _ => ⟨rfl, rfl, rfl⟩⟩
  totals := by
    intro key ok
    have hzero : (((start m).threads : Multiset Thread).map fun l => ((l.countedAs key ok).toNat : Int)).sum = 0 := by
      apply Multiset.sum_eq_zero
      intro n hn
      obtain ⟨l, hl, rfl⟩ := Multiset.mem_map.mp hn
      exact start_threads (P := fun l => ((l.countedAs key ok).toNat : Int) = 0) (fun _ => rfl) l hl
    rw [hzero]
    cases ok <;> rfl
  borrowing := by
    intro key acc hacc
    refine ⟨(bind_start_threads fun _ => rfl).symm, 0, by simp, ?_⟩
    rw [bind_start_threads fun _ => rfl]
    exact Pool.consistent_start
  limiters := fun hacc htokens => mem_start_threads.mpr ⟨_, _, hacc, htokens, rfl⟩

lemma Consistent.run {c d : System State Thread} (h : Consistent m codec c)
    (hrun : run (program m codec).next c ms = some d) : Consistent m codec d where
  slots := (preserves_slots.run ⟨h.slots, h.bound⟩ hrun).1
  bound := (preserves_slots.run ⟨h.slots, h.bound⟩ hrun).2
  tracked := preserves_tracked.run h.tracked hrun
  ordered := preserves_ordered.run h.ordered hrun
  totals := fun key ok => ((preserves_totals key ok).run ⟨h.ordered.sound, h.totals key ok⟩ hrun).2
  borrowing := fun hacc =>
    ((preserves_borrowing hacc Pool.preserves_consistent).run ⟨h.ordered, h.borrowing hacc⟩ hrun).2
  limiters := fun hacc htokens => (preserves_limiter _).run (h.limiters hacc htokens) hrun

/-! ### Who can move -/

/-- What the validation of the configuration sees to. -/
structure Usable (m : MultiAccountSender) : Prop where
  sem_pos : 0 < m.batchSem
  maxOpen_pos : ∀ {key acc}, m.accounts.lookup key = some acc → 0 < acc.pool.maxOpen
  tokens_pos : ∀ {key acc}, m.accounts.lookup key = some acc → ∀ capacity ∈ acc.tokens, 0 < capacity

def Goroutine.Moves (m : MultiAccountSender) (codec : Codec) (s : State) (g : Goroutine) : Prop :=
  ∃ a, (∀ tid, effective (.step tid a) = true) ∧ (stepGoroutine m codec s g a).isSome = true

/-- A step can be taken, at once or after a tick. -/
def CanProceed (m : MultiAccountSender) (codec : Codec) (c : System State Thread) : Prop :=
  (∃ mv d, effective mv = true ∧ (program m codec).next c mv = some d) ∨
    ∃ tid b mv d, (program m codec).next c (.step tid .tick) = some b ∧ effective mv = true ∧
      (program m codec).next b mv = some d

section Progress

variable {c : System State Thread}

lemma Goroutine.Moves.exists_next (h : g.Moves m codec c.shared) (hcrashed : c.shared.crashed = false)
    (hg : .goroutine g ∈ c.threads) : ∃ mv d, effective mv = true ∧ (program m codec).next c mv = some d := by
  obtain ⟨a, heffective, hmoves⟩ := h
  obtain ⟨r, hstep⟩ := Option.isSome_iff_exists.mp hmoves
  obtain ⟨tid, htid⟩ := List.mem_iff_getElem?.mp hg
  have hthread : (program m codec).step c.shared (.goroutine g) a = some (r.1, .goroutine r.2) := by
    simp only [program, step, hcrashed, Bool.false_eq_true, if_false, hstep, Option.map_some]
  exact ⟨.step tid a, _, heffective tid, Program.next_step htid hthread⟩

lemma moves_acquiring {data : Text} {l : Pool.Call} (hphase : g.phase = .acquiring j data l)
    (hl : l.acquires = true) (hopen : (s.accounts j.key).pool.IsOpen)
    (hfree : l = .phase2 → (s.accounts j.key).pool.sem < j.acc.pool.maxOpen ∨
      (s.accounts j.key).pool.idleConns ≠ []) : g.Moves m codec s := by
  obtain ⟨a, r, ha, hstep⟩ := Pool.exists_step_acquires hopen hl hfree
  have hctx : stopsWith (s.ctxErr g.call) a = true := by
    cases a with
    | done err => exact absurd rfl (ha err)
    | _ => rfl
  refine ⟨.pool a, fun _ => rfl, ?_⟩
  simp only [stepGoroutine, hphase, hctx, if_true, hstep, Option.map_some, Option.isSome_some]

lemma moves_releasing {err : Option GoError} {l : Pool.Call}
    (hphase : g.phase = .releasing j client err l) (hl : l.releases = true)
    (hopen : (s.accounts j.key).pool.IsOpen) : g.Moves m codec s := by
  obtain ⟨a, r, hstep⟩ : ∃ a r, Pool.step j.acc.pool (s.accounts j.key).pool l a = some r :=
    Pool.exists_step_releases hopen hl
  refine ⟨.pool a, fun _ => rfl, ?_⟩
  simp only [stepGoroutine, hphase, hstep, Option.map_some, Option.isSome_some]

lemma moves_transmitting {data : Text}
    (hphase : g.phase = .transmitting j data client) : g.Moves m codec s := by
  refine ⟨.deliver none, fun _ => rfl, ?_⟩
  simp only [stepGoroutine, hphase, Option.isSome_some]

lemma Consistent.moves_or_waits (h : Consistent m codec c) (hg : .goroutine g ∈ c.threads)
    (hrunning : g.phase.running = true) :
    g.Moves m codec c.shared ∨ (g.phase = .entering ∧ m.batchSem ≤ c.shared.batchSem) ∨
      (∃ j, g.phase = .limiting j ∧ (c.shared.accounts j.key).rateLimiter = 0) ∨
      ∃ j data, g.phase = .acquiring j data .phase2 ∧
        j.acc.pool.maxOpen ≤ (c.shared.accounts j.key).pool.sem ∧ (c.shared.accounts j.key).pool.idleConns = [] := by
  have hat : g.phase.atPool = true := h.ordered.atPool _ hg
  cases hphase : g.phase with
  | entering =>
    rcases lt_or_ge (c.shared.batchSem : Int) m.batchSem with hroom | hfull
    · refine .inl ⟨.proceed, fun _ => rfl, ?_⟩
      simp only [stepGoroutine, hphase, if_pos hroom, Option.isSome_some]
    · exact .inr (.inl ⟨rfl, hfull⟩)
  | sending =>
    refine .inl ⟨.proceed, fun _ => rfl, ?_⟩
    simp only [stepGoroutine, hphase]
    split
    · rfl
    · split <;> rfl
  | checking j =>
    refine .inl ⟨.check plainEnv, fun _ => rfl, ?_⟩
    simp only [stepGoroutine, hphase]
    split <;> rfl
  | limiting j =>
    rcases Nat.eq_zero_or_pos (c.shared.accounts j.key).rateLimiter with hzero | hpos
    · exact .inr (.inr (.inl ⟨j, rfl, hzero⟩))
    · refine .inl ⟨.proceed, fun _ => rfl, ?_⟩
      simp only [stepGoroutine, hphase, if_pos hpos, Option.isSome_some]
  | building j =>
    refine .inl ⟨.build plainEnv.mime, fun _ => rfl, ?_⟩
    simp only [stepGoroutine, hphase]
    split <;> rfl
  | acquiring j data l =>
    rw [hphase] at hat
    by_cases hfree : l = .phase2 → (c.shared.accounts j.key).pool.sem < j.acc.pool.maxOpen ∨
        (c.shared.accounts j.key).pool.idleConns ≠ []
    · exact .inl (moves_acquiring hphase hat (h.ordered.isOpen j.key) hfree)
    · obtain ⟨rfl, hnot⟩ := Classical.not_imp.mp hfree
      obtain ⟨hsem, hidle⟩ := not_or.mp hnot
      exact .inr (.inr (.inr ⟨j, data, rfl, Nat.not_lt.mp hsem, not_not.mp hidle⟩))
  | transmitting j data client => exact .inl (moves_transmitting hphase)
  | releasing j client err l =>
    rw [hphase] at hat
    exact .inl (moves_releasing hphase hat (h.ordered.isOpen j.key))
  | leaving err =>
    have hslot : 0 < c.shared.batchSem := by
      rw [h.slots]
      refine count_pos.mpr ⟨_, hg, ?_⟩
      simp only [Thread.holdsSlot, hphase, Phase.holdsSlot]
    refine .inl ⟨.proceed, fun _ => rfl, ?_⟩
    simp only [stepGoroutine, hphase, if_pos hslot, Option.isSome_some]
  | finished err =>
    rw [hphase] at hrunning
    cases hrunning
  | refused err | counting j err | storing err | exiting err =>
    refine .inl ⟨.proceed, fun _ => rfl, ?_⟩
    simp only [stepGoroutine, hphase, Option.isSome_some]

lemma exists_of_mem_lentTo {l : Thread} (h : client ∈ l.lentTo key) :
    ∃ g j data, l = .goroutine g ∧ g.phase = .transmitting j data client := by
  cases l with
  | goroutine g =>
    simp only [Thread.lentTo, Phase.lentTo] at h
    split at h
    · rename_i j data lent hphase
      split_ifs at h
      · cases Multiset.mem_singleton.mp h
        exact ⟨g, j, data, rfl, hphase⟩
      · cases Multiset.notMem_zero _ h
    · cases Multiset.notMem_zero _ h
  | caller id results => cases Multiset.notMem_zero _ h
  | limiter key => cases Multiset.notMem_zero _ h

lemma exists_of_mem_poolCall {l : Thread} {k : Pool.Call} (h : k ∈ l.poolCall key) :
    ∃ g j, l = .goroutine g ∧
      ((∃ data, g.phase = .acquiring j data k) ∨ ∃ client err, g.phase = .releasing j client err k) := by
  cases l with
  | goroutine g =>
    simp only [Thread.poolCall, Phase.poolCall] at h
    split at h
    · rename_i j data call hphase
      split_ifs at h
      · cases Multiset.mem_singleton.mp h
        exact ⟨g, j, rfl, .inl ⟨data, hphase⟩⟩
      · cases Multiset.notMem_zero _ h
    · rename_i j client err call hphase
      split_ifs at h
      · cases Multiset.mem_singleton.mp h
        exact ⟨g, j, rfl, .inr ⟨client, err, hphase⟩⟩
      · cases Multiset.notMem_zero _ h
    · cases Multiset.notMem_zero _ h
  | caller id results => cases Multiset.notMem_zero _ h
  | limiter key => cases Multiset.notMem_zero _ h

lemma Consistent.exists_moves_of_full (h : Consistent m codec c) {acc : AccountSender}
    (hacc : m.accounts.lookup key = some acc) (hpos : 0 < acc.pool.maxOpen)
    (hsem : acc.pool.maxOpen ≤ (c.shared.accounts key).pool.sem)
    (hidle : (c.shared.accounts key).pool.idleConns = []) :
    ∃ g, .goroutine g ∈ c.threads ∧ g.Moves m codec c.shared := by
  obtain ⟨hlent, ended, hended, -, haccounted⟩ := h.borrowing hacc
  have htokens := haccounted.tokens
  obtain ⟨client, hclient⟩ : ∃ client, client ∈ (c.shared.accounts key).pool.stored +
      (ended + (c.threads : Multiset Thread).bind (Thread.poolCall key)).bind Pool.Call.conns := by
    rw [← Multiset.card_pos_iff_exists_mem, ← htokens]
    omega
  rw [Pool.State.stored, hidle, Multiset.coe_nil, zero_add, hlent, Multiset.mem_add] at hclient
  rcases hclient with hclient | hclient
  · obtain ⟨l, hl, hmem⟩ := Multiset.mem_bind.mp hclient
    obtain ⟨g, j, data, rfl, hphase⟩ := exists_of_mem_lentTo hmem
    exact ⟨g, hl, moves_transmitting hphase⟩
  · obtain ⟨k, hk, hconns⟩ := Multiset.mem_bind.mp hclient
    rcases Multiset.mem_add.mp hk with hk | hk
    · obtain ⟨r, rfl⟩ := hended k hk
      cases Multiset.notMem_zero _ hconns
    · obtain ⟨l, hl, hmem⟩ := Multiset.mem_bind.mp hk
      obtain ⟨g, j, rfl, hphase⟩ := exists_of_mem_poolCall hmem
      have hat : g.phase.atPool = true := h.ordered.atPool _ hl
      refine ⟨g, hl, ?_⟩
      rcases hphase with ⟨data, hphase⟩ | ⟨lent, err, hphase⟩
      · rw [hphase] at hat
        apply moves_acquiring hphase hat (h.ordered.isOpen j.key)
        rintro rfl
        cases Multiset.notMem_zero _ hconns
      · rw [hphase] at hat
        exact moves_releasing hphase hat (h.ordered.isOpen j.key)

lemma Consistent.canProceed_of_limiting (h : Consistent m codec c) (husable : Usable m)
    (hcrashed : c.shared.crashed = false) (hg : .goroutine g ∈ c.threads)
    (hphase : g.phase = .limiting j) (hzero : (c.shared.accounts j.key).rateLimiter = 0) :
    CanProceed m codec c := by
  have hsound : g.Sound m codec := h.ordered.sound _ hg
  rw [Goroutine.Sound, hphase] at hsound
  obtain ⟨hfor, -, htokens⟩ := hsound
  obtain ⟨capacity, hcapacity⟩ := Option.isSome_iff_exists.mp htokens
  have hpos := husable.tokens_pos hfor.lookup_eq capacity hcapacity
  obtain ⟨tid, htid⟩ := List.mem_iff_getElem?.mp (h.limiters hfor.lookup_eq htokens)
  have htick : (program m codec).step c.shared (.limiter j.key) .tick =
      some (c.shared.updateAccount j.key fun a => { a with rateLimiter := a.rateLimiter + 1 }, .limiter j.key) := by
    simp only [program, step, hcrashed, Bool.false_eq_true, if_false, stepLimiter, hfor.lookup_eq, Option.bind_some,
      hcapacity, Option.map_some, hzero, if_pos hpos]
  obtain ⟨tid', htid'⟩ := List.mem_iff_getElem?.mp hg
  have hne : tid ≠ tid' := by
    rintro rfl
    cases htid.symm.trans htid'
  have hmem : .goroutine g ∈ c.threads.set tid (.limiter j.key) := by
    rw [List.mem_iff_getElem?]
    exact ⟨tid', (List.getElem?_set_ne hne).trans htid'⟩
  have hmoves : g.Moves m codec
      (c.shared.updateAccount j.key fun a => { a with rateLimiter := a.rateLimiter + 1 }) := by
    refine ⟨.proceed, fun _ => rfl, ?_⟩
    simp [stepGoroutine, hphase, State.updateAccount]
  obtain ⟨mv, d, heffective, hnext⟩ := hmoves.exists_next
    (c := ⟨_, c.threads.set tid (.limiter j.key)⟩) hcrashed hmem
  exact .inr ⟨tid, _, mv, d, Program.next_step htid htick, heffective, hnext⟩

lemma Phase.running_of_holdsSlot {p : Phase} (h : p.holdsSlot = true) : p.running = true := by
  cases p with
  | finished err => cases h
  | _ => rfl

lemma Consistent.canProceed_of_slot (h : Consistent m codec c) (husable : Usable m)
    (hcrashed : c.shared.crashed = false) (hg : .goroutine g ∈ c.threads) (hslot : g.phase.holdsSlot = true) :
    CanProceed m codec c := by
  rcases h.moves_or_waits hg (Phase.running_of_holdsSlot hslot) with hmoves | ⟨hphase, -⟩ | ⟨j, hphase, hzero⟩ |
    ⟨j, data, hphase, hsem, hidle⟩
  · exact .inl (hmoves.exists_next hcrashed hg)
  · rw [hphase] at hslot
    cases hslot
  · exact h.canProceed_of_limiting husable hcrashed hg hphase hzero
  · have hsound : g.Sound m codec := h.ordered.sound _ hg
    rw [Goroutine.Sound, hphase] at hsound
    have hacc := hsound.1.lookup_eq
    obtain ⟨k, hk, hmoves⟩ := h.exists_moves_of_full hacc (husable.maxOpen_pos hacc) hsem hidle
    exact .inl (hmoves.exists_next hcrashed hk)

lemma Consistent.canProceed_of_running (h : Consistent m codec c) (husable : Usable m)
    (hcrashed : c.shared.crashed = false) (hg : .goroutine g ∈ c.threads) (hrunning : g.phase.running = true) :
    CanProceed m codec c := by
  by_cases hslot : g.phase.holdsSlot = true
  · exact h.canProceed_of_slot husable hcrashed hg hslot
  · rcases h.moves_or_waits hg hrunning with hmoves | ⟨hphase, hfull⟩ | ⟨j, hphase, -⟩ | ⟨j, data, hphase, -⟩
    · exact .inl (hmoves.exists_next hcrashed hg)
    · -- all slots are taken, so somebody is inside
      have hpos : 0 < count Thread.holdsSlot c.threads := by
        have hsem := husable.sem_pos
        rw [← h.slots]
        omega
      obtain ⟨l, hl, hholds⟩ := count_pos.mp hpos
      cases l with
      | goroutine k => exact h.canProceed_of_slot husable hcrashed hl hholds
      | caller id results => cases hholds
      | limiter key => cases hholds
    · rw [hphase] at hslot
      exact absurd rfl hslot
    · rw [hphase] at hslot
      exact absurd rfl hslot

lemma CallTracked.started_le {call : BatchCall} {ls : Multiset Thread} (h : CallTracked id call ls) :
    call.started ≤ call.emails.length := by
  cases hstarted : call.started with
  | zero => exact Nat.zero_le _
  | succ n =>
    have hmem : n ∈ ls.filterMap (Thread.indexIn id) := by
      rw [h.indices, hstarted]
      exact Multiset.mem_range.mpr (Nat.lt_succ_self n)
    obtain ⟨l, hl, hindex⟩ := (Multiset.mem_filterMap _ _).mp hmem
    cases l with
    | goroutine g =>
      simp only [Thread.indexIn] at hindex
      split_ifs at hindex with hid
      cases hindex
      exact (List.getElem?_eq_some_iff.mp (h.items g hl hid)).1
    | caller i results => cases hindex
    | limiter key => cases hindex

lemma Consistent.canProceed (h : Consistent m codec c) (husable : Usable m) (hcrashed : c.shared.crashed = false) (hcaller : .caller id none ∈ c.threads) : CanProceed m codec c := by
  obtain ⟨call, hcall⟩ : ∃ call, c.shared.calls[id]? = some call :=
    ⟨_, List.getElem?_eq_getElem (h.tracked.caller_lt hcaller)⟩
  have htracked := h.tracked.tracked hcall
  rcases Nat.lt_or_eq_of_le htracked.started_le with hlt | hstarted
  · -- the loop goes on
    obtain ⟨d, hnext⟩ : ∃ d, (program m codec).next c (.call (.start id)) = some d := by
      rw [← Option.isSome_iff_exists]
      simp only [Program.next, program, request, hcrashed, Bool.false_eq_true, if_false, hcall, Option.bind_some,
        List.getElem?_eq_getElem hlt, Option.map_some, Option.isSome_some]
    exact .inl ⟨.call (.start id), d, rfl, hnext⟩
  · rcases Nat.eq_zero_or_pos call.wg with hwg | hwg
    · obtain ⟨tid, htid⟩ := List.mem_iff_getElem?.mp hcaller
      have hreturn : (program m codec).step c.shared (.caller id none) .proceed =
          some (c.shared, .caller id (some call.errorsList)) := by
        simp only [program, step, hcrashed, Bool.false_eq_true, if_false, stepCaller, hcall, Option.bind_some,
          hstarted, hwg, and_self, if_true, Option.map_some]
      exact .inl ⟨.step tid .proceed, _, rfl, Program.next_step htid hreturn⟩
    · rw [htracked.wg_eq] at hwg
      obtain ⟨l, hl, hruns⟩ := count_pos.mp hwg
      cases l with
      | goroutine g =>
        exact h.canProceed_of_running husable hcrashed hl (Bool.and_eq_true_iff.mp hruns).2
      | caller i results => cases hruns
      | limiter key => cases hruns

end Progress

end MailBaby.SendBatch
