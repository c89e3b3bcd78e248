import MailBaby.Runtime.Lifecycle

/-!
# One lifecycle at a time

All three writers of the state word store to it without knowing whose lifecycle it describes.
-/

namespace MailBaby.Lifecycle

open Lib

namespace Thread

def starts : Thread → Bool
  | obtaining _ => true
  | rollingBack .. => true
  | settingCancel _ => true
  | storingRunning _ => true
  | adding _ => true
  | launching _ => true
  | _ => false

def loops : Thread → Bool
  | live _ => true
  | exiting _ => true
  | _ => false

def counted : Thread → Bool
  | launching _ => true
  | live _ => true
  | exiting _ => true
  | finishing _ => true
  | _ => false

def strikes : Thread → Bool
  | loaded .. => true
  | cancelling _ => true
  | waiting .. => true
  | storingStopped .. => true
  | _ => false

def stops : Thread → Bool
  | stop _ => true
  | l => l.strikes

def swaps : Thread → Bool
  | start _ => true
  | _ => false

def reads : Thread → Bool
  | stop _ => true
  | _ => false

def decided : Thread → Bool
  | waiting _ true => true
  | storingStopped .. => true
  | _ => false

def isLive : Thread → Bool
  | live _ => true
  | _ => false

end Thread

def Action.expires : Action → Bool
  | expire _ => true
  | _ => false

/-- Which steps keep lifecycles apart: no `Start` takes the word while a `Stop` is in progress, no
`Stop` reads it while a `Start` is on its way to its loop, and no `Stop` gives up on a loop. -/
def Permits (c : System Shared Thread) (l : Thread) (a : Action) : Prop :=
  (l.swaps = true → c.shared.state = .stopped → ∀ k ∈ c.threads, k.stops = false) ∧
  (l.reads = true → ∀ k ∈ c.threads, k.starts = false) ∧
  (a.expires = true → ∀ k ∈ c.threads, k.loops = false)

instance (c : System Shared Thread) (l : Thread) (a : Action) : Decidable (Permits c l a) :=
  inferInstanceAs (Decidable (_ ∧ _ ∧ _))

def Orderly (c : System Shared Thread) : Move Request Action → Prop
  | .step tid a => ∀ l ∈ c.threads[tid]?, Permits c l a
  | .call _ => True
  | .meet .. => True

instance (c : System Shared Thread) : ∀ m, Decidable (Orderly c m)
  | .step tid a => inferInstanceAs (Decidable (∀ l ∈ c.threads[tid]?, Permits c l a))
  | .call _ => isTrue trivial
  | .meet .. => isTrue trivial

variable {s s' : Shared} {l l' : Thread} {a : Action} {rest : Multiset Thread}

/-- What the word and the wait group say, given how many threads are of each kind. -/
structure Tally (s : Shared) (starts loops strikes counted decided : Nat) : Prop where
  one : starts + loops ≤ 1
  idle : s.state = .stopped → starts + loops = 0
  apart : starts = 0 ∨ strikes = 0
  wg_eq : s.wg = counted
  settled : decided = 0 ∨ starts + loops = 0

def Tallied (s : Shared) (ts : Multiset Thread) : Prop :=
  Tally s (count Thread.starts ts) (count Thread.loops ts) (count Thread.strikes ts)
    (count Thread.counted ts) (count Thread.decided ts)

lemma tallied_cons : Tallied s (l ::ₘ rest) ↔
    Tally s (count Thread.starts rest + l.starts.toNat) (count Thread.loops rest + l.loops.toNat)
      (count Thread.strikes rest + l.strikes.toNat) (count Thread.counted rest + l.counted.toNat)
      (count Thread.decided rest + l.decided.toNat) := by
  simp only [Tallied, count_cons]

lemma Thread.stops_of_strikes (h : l.strikes = true) : l.stops = true := by
  cases l <;> first | rfl | cases h

lemma Thread.strikes_of_decided (h : l.decided = true) : l.strikes = true := by
  cases l <;> first | rfl | cases h

lemma Thread.counted_of_loops (h : l.loops = true) : l.counted = true := by
  cases l <;> first | rfl | cases h

/-- What a step of a call or of a loop can do. -/
inductive ThreadStep (s : Shared) : Thread → Action → Shared → Thread → Prop
  | won (n : Nat) (hstate : s.state = .stopped) :
      ThreadStep s (.start n) .proceed { s with state := .starting } (.obtaining n)
  | lost (n : Nat) : ThreadStep s (.start n) .proceed s (.startFailed n errEngineAlreadyRunning)
  | obtained (n : Nat) : ThreadStep s (.obtaining n) (.obtain none) s (.settingCancel n)
  | refused (n : Nat) (err : GoError) : ThreadStep s (.obtaining n) (.obtain (some err)) s (.rollingBack n err)
  | rolledBack (n : Nat) (err err' : GoError) :
      ThreadStep s (.rollingBack n err) .proceed { s with state := .stopped } (.startFailed n err')
  | cancelSet (n : Nat) :
      ThreadStep s (.settingCancel n) .proceed { s with cancelFunc := some n } (.storingRunning n)
  | ran (n : Nat) : ThreadStep s (.storingRunning n) .proceed { s with state := .running } (.adding n)
  | added (n : Nat) : ThreadStep s (.adding n) .proceed { s with wg := s.wg + 1 } (.launching n)
  | launched (n : Nat) : ThreadStep s (.launching n) .proceed s (.live n)
  | exited (n : Nat) : ThreadStep s (.live n) .exit s (.exiting n)
  | stored (n : Nat) : ThreadStep s (.exiting n) .proceed { s with state := .stopped } (.finishing n)
  | finished (n : Nat) : ThreadStep s (.finishing n) .proceed { s with wg := s.wg - 1 } (.ended n)
  | idle (k : Nat) (hstate : s.state = .stopped) :
      ThreadStep s (.stop k) .proceed s (.stopReturned k none)
  | read (k : Nat) : ThreadStep s (.stop k) .proceed s (.loaded k s.state)
  | struck (k : Nat) (current : EngineState) :
      ThreadStep s (.loaded k current) .proceed { s with state := .stopping } (.cancelling k)
  | retried (k : Nat) (current : EngineState) : ThreadStep s (.loaded k current) .proceed s (.stop k)
  | cancelled (k : Nat) :
      ThreadStep s (.cancelling k) .proceed { s with cancelled := s.cancelFunc.toList ++ s.cancelled }
        (.waiting k false)
  | released (k : Nat) (hzero : s.wg = 0) : ThreadStep s (.waiting k false) .release s (.waiting k true)
  | drained (k : Nat) : ThreadStep s (.waiting k true) .proceed s (.storingStopped k none)
  | expired (k : Nat) (released : Bool) (err : GoError) :
      ThreadStep s (.waiting k released) (.expire err) s (.storingStopped k (some err))
  | stopped (k : Nat) (err : Option GoError) :
      ThreadStep s (.storingStopped k err) .proceed { s with state := .stopped } (.stopReturned k err)

lemma threadStep_of_step (h : step s l a = some (s', l')) : ThreadStep s l a s' l' := by
  simp only [step, Option.orElse_eq_orElse, Option.orElse_eq_or, Option.or_eq_some_iff] at h
  rcases h with h | ⟨-, h | ⟨-, h⟩⟩
  · unfold stepStart at h
    repeat' split at h
    all_goals cases h
    all_goals constructor <;> assumption
  · unfold stepLoop at h
    split at h <;> cases h <;> constructor
  · unfold stepStop at h
    repeat' split at h
    all_goals cases h
    all_goals constructor <;> assumption

lemma Tallied.step (hc : Tallied s (l ::ₘ rest)) (h : ThreadStep s l a s' l')
    (hstop : ∀ n, l = .start n → s.state = .stopped → count Thread.stops rest = 0)
    (hload : ∀ k, l = .stop k → count Thread.starts rest = 0)
    (hgive : ∀ k released err, l = .waiting k released → a = .expire err →
      count Thread.loops rest = 0) :
    Tallied s' (l' ::ₘ rest) := by
  rw [tallied_cons] at hc ⊢
  obtain ⟨hone, hidle, hapart, hwg, hsettled⟩ := hc
  cases h with
  | won n hstate =>
    have hstrikes : count Thread.strikes rest = 0 :=
      count_eq_zero_of_imp (fun _ => Thread.stops_of_strikes) (hstop n rfl hstate)
    have hdecided : count Thread.decided rest = 0 :=
      count_eq_zero_of_imp (fun _ => Thread.strikes_of_decided) hstrikes
    have hnone := hidle hstate
    simp only [Thread.starts, Thread.loops, Bool.toNat_false] at hnone
    exact ⟨by simp [Thread.starts, Thread.loops]; omega, nofun, Or.inr hstrikes, hwg, Or.inl hdecided⟩
  | rolledBack | stored =>
    simp only [Thread.starts, Thread.loops, Bool.toNat_true, Bool.toNat_false] at hone ⊢
    exact ⟨by omega, fun _ => by omega, Or.inl (by omega), hwg, Or.inr (by omega)⟩
  | ran | struck => exact ⟨hone, nofun, hapart, hwg, hsettled⟩
  | added => exact ⟨hone, hidle, hapart, congrArg (· + 1) hwg, hsettled⟩
  | launched =>
    simp only [Thread.starts, Thread.loops, Thread.strikes, Thread.decided, Bool.toNat_true,
      Bool.toNat_false] at hone hidle hapart hsettled ⊢
    exact ⟨by omega, fun hs => by have := hidle hs; omega, Or.inl (by omega), hwg, by omega⟩
  | finished => exact ⟨hone, hidle, hapart, congrArg (· - 1) hwg, hsettled⟩
  | read k => exact ⟨hone, hidle, Or.inl (hload k rfl), hwg, hsettled⟩
  | retried =>
    simp only [Thread.starts, Thread.strikes, Bool.toNat_true, Bool.toNat_false] at hapart ⊢
    exact ⟨hone, hidle, Or.inl (by omega), hwg, hsettled⟩
  | released k hzero =>
    -- the waiter saw the wait group at zero: no loop is left, and no `Start` is under way
    have hloops : count Thread.loops rest ≤ count Thread.counted rest :=
      count_le fun _ => Thread.counted_of_loops
    rw [hzero] at hwg
    simp only [Thread.starts, Thread.loops, Thread.strikes, Thread.counted, Bool.toNat_true,
      Bool.toNat_false] at hone hidle hapart hwg ⊢
    exact ⟨hone, hidle, hapart, by omega, Or.inr (by omega)⟩
  | expired k released err =>
    have hloops := hgive k released err rfl rfl
    simp only [Thread.starts, Thread.loops, Thread.strikes, Bool.toNat_true, Bool.toNat_false]
      at hone hidle hapart ⊢
    exact ⟨hone, hidle, hapart, hwg, Or.inr (by omega)⟩
  | stopped =>
    simp only [Thread.starts, Thread.loops, Thread.decided, Bool.toNat_true, Bool.toNat_false]
      at hone hsettled ⊢
    exact ⟨hone, fun _ => by omega, Or.inl (by omega), hwg, Or.inr (by omega)⟩
  | _ => exact ⟨hone, hidle, hapart, hwg, hsettled⟩

/-! ### What the word says about the lifecycle there is -/

namespace Thread

def number : Thread → Nat
  | start n => n
  | obtaining n => n
  | rollingBack n _ => n
  | settingCancel n => n
  | storingRunning n => n
  | adding n => n
  | launching n => n
  | live n => n
  | exiting n => n
  | finishing n => n
  | ended n => n
  | startFailed n _ => n
  | stop n => n
  | loaded n _ => n
  | cancelling n => n
  | waiting n _ => n
  | storingStopped n _ => n
  | stopReturned n _ => n

def claim : Thread → Option EngineState
  | obtaining _ => some .starting
  | rollingBack .. => some .starting
  | settingCancel _ => some .starting
  | storingRunning _ => some .starting
  | adding _ => some .running
  | launching _ => some .running
  | live _ => some .running
  | exiting _ => some .running
  | _ => none

def owns : Thread → Bool
  | storingRunning _ => true
  | adding _ => true
  | launching _ => true
  | live _ => true
  | exiting _ => true
  | _ => false

lemma claim_eq_none_iff : l.claim = none ↔ l.starts = false ∧ l.loops = false := by
  cases l <;> simp [claim, starts, loops]

lemma claim_ne_none_of_owns (h : l.owns = true) : l.claim ≠ none := by
  cases l <;> simp [claim, owns] at h ⊢

end Thread

/-- The lifecycle that no `Stop` was called on has the word and `cancelFunc` to itself. -/
structure Agreed (s : Shared) (ts : Multiset Thread) : Prop where
  claim : ∀ l ∈ ts, ∀ w, l.claim = some w → s.lastStop < l.number →
    count Thread.stops ts = 0 ∧ s.state = w
  cancel : ∀ l ∈ ts, l.owns = true → s.lastStop < l.number → s.cancelFunc = some l.number
  numbered : ∀ l ∈ ts, 0 < l.number ∧ l.number ≤ s.calls

lemma claims_none (h : count Thread.starts rest + count Thread.loops rest = 0) :
    ∀ k ∈ rest, k.claim = none := by
  intro k hk
  have hstarts : count Thread.starts rest = 0 := by omega
  have hloops : count Thread.loops rest = 0 := by omega
  exact Thread.claim_eq_none_iff.mpr ⟨count_eq_zero.mp hstarts k hk, count_eq_zero.mp hloops k hk⟩

lemma Agreed.numbered_cons (hc : Agreed s (l ::ₘ rest)) (hcalls : s'.calls = s.calls)
    (hnumber : l'.number = l.number) :
    ∀ k ∈ l' ::ₘ rest, 0 < k.number ∧ k.number ≤ s'.calls := by
  intro k hk
  rw [hcalls]
  rcases Multiset.mem_cons.mp hk with rfl | hin
  · rw [hnumber]
    exact hc.numbered l (Multiset.mem_cons_self _ _)
  · exact hc.numbered k (Multiset.mem_cons_of_mem hin)

lemma Agreed.own (hc : Agreed s (l ::ₘ rest)) (hrest : ∀ k ∈ rest, k.claim = none)
    (hcalls : (s'.calls, s'.lastStop, l'.number, l'.stops) = (s.calls, s.lastStop, l.number, l.stops))
    (hclaim : ∀ w', l'.claim = some w' → ∃ w, l.claim = some w ∧ (s.state = w → s'.state = w'))
    (howns : l'.owns = true → s'.cancelFunc = some l'.number ∨
      l.owns = true ∧ s'.cancelFunc = s.cancelFunc) : Agreed s' (l' ::ₘ rest) := by
  simp only [Prod.mk.injEq] at hcalls
  obtain ⟨hcalls, hlast, hnumber, hstops⟩ := hcalls
  refine ⟨?_, ?_, hc.numbered_cons hcalls hnumber⟩
  · intro k hk w' hw' hlt
    rcases Multiset.mem_cons.mp hk with rfl | hin
    · obtain ⟨w, hw, hstate⟩ := hclaim w' hw'
      rw [hlast, hnumber] at hlt
      obtain ⟨hzero, hs⟩ := hc.claim l (Multiset.mem_cons_self _ _) w hw hlt
      rw [count_cons] at hzero ⊢
      rw [hstops]
      exact ⟨hzero, hstate hs⟩
    · rw [hrest k hin] at hw'
      cases hw'
  · intro k hk hown hlt
    rcases Multiset.mem_cons.mp hk with rfl | hin
    · rcases howns hown with heq | ⟨hl, heq⟩
      · exact heq
      · rw [hlast, hnumber] at hlt
        rw [heq, hnumber]
        exact hc.cancel l (Multiset.mem_cons_self _ _) hl hlt
    · exact absurd (hrest k hin) (Thread.claim_ne_none_of_owns hown)

lemma Agreed.other (hc : Agreed s (l ::ₘ rest))
    (hsame : (s'.calls, s'.lastStop, s'.cancelFunc, l'.number) =
      (s.calls, s.lastStop, s.cancelFunc, l.number))
    (hclaim : l'.claim = none) (hstops : l'.stops = true → l.stops = true)
    (hstate : l.stops = true ∨ s'.state = s.state) : Agreed s' (l' ::ₘ rest) := by
  simp only [Prod.mk.injEq] at hsame
  obtain ⟨hcalls, hlast, hcancel, hnumber⟩ := hsame
  refine ⟨?_, ?_, hc.numbered_cons hcalls hnumber⟩
  · intro k hk w hw hlt
    rcases Multiset.mem_cons.mp hk with rfl | hin
    · rw [hclaim] at hw
      cases hw
    · rw [hlast] at hlt
      obtain ⟨hzero, hs⟩ := hc.claim k (Multiset.mem_cons_of_mem hin) w hw hlt
      obtain ⟨hl, hrest⟩ := count_cons_eq_zero.mp hzero
      have hl' : l'.stops = false := by
        cases h : l'.stops with
        | false => rfl
        | true => exact absurd (hstops h) (by simp [hl])
      refine ⟨count_cons_eq_zero.mpr ⟨hl', hrest⟩, ?_⟩
      rcases hstate with hstop | heq
      · rw [hl] at hstop
        cases hstop
      · rw [heq, hs]
  · intro k hk hown hlt
    rw [hcancel]
    rw [hlast] at hlt
    rcases Multiset.mem_cons.mp hk with rfl | hin
    · exact absurd hclaim (Thread.claim_ne_none_of_owns hown)
    · exact hc.cancel k (Multiset.mem_cons_of_mem hin) hown hlt

lemma Tallied.rest_claims (hc : Tallied s (l ::ₘ rest)) (hl : l.claim ≠ none) :
    ∀ k ∈ rest, k.claim = none := by
  rw [tallied_cons] at hc
  have hone := hc.one
  apply claims_none
  cases hs : l.starts with
  | true =>
    rw [hs, Bool.toNat_true] at hone
    omega
  | false =>
    cases hl' : l.loops with
    | true =>
      rw [hl', Bool.toNat_true] at hone
      omega
    | false => exact absurd (Thread.claim_eq_none_iff.mpr ⟨hs, hl'⟩) hl

lemma Agreed.step (hc : Agreed s (l ::ₘ rest)) (ht : Tallied s (l ::ₘ rest)) (h : ThreadStep s l a s' l')
    (hstop : ∀ n, l = .start n → s.state = .stopped → count Thread.stops rest = 0) :
    Agreed s' (l' ::ₘ rest) := by
  have hrest := ht.rest_claims
  cases h with
  | won n hstate =>
    have hnone : ∀ k ∈ rest, k.claim = none := claims_none ((tallied_cons.mp ht).idle hstate)
    refine ⟨?_, ?_, hc.numbered_cons rfl rfl⟩
    · intro k hk w hw hlt
      rcases Multiset.mem_cons.mp hk with rfl | hin
      · cases hw
        refine ⟨?_, rfl⟩
        rw [count_cons, hstop n rfl hstate]
        rfl
      · rw [hnone k hin] at hw
        cases hw
    · intro k hk hown
      rcases Multiset.mem_cons.mp hk with rfl | hin
      · cases hown
      · exact absurd (hnone k hin) (Thread.claim_ne_none_of_owns hown)
  | lost | finished | idle => exact hc.other rfl rfl nofun (Or.inr rfl)
  | obtained | refused => exact hc.own (hrest nofun) rfl (fun w hw => ⟨w, hw, id⟩) nofun
  | rolledBack | stored => exact hc.own (hrest nofun) rfl nofun nofun
  | cancelSet => exact hc.own (hrest nofun) rfl (fun w hw => ⟨w, hw, id⟩) fun _ => Or.inl rfl
  | ran =>
    refine hc.own (hrest nofun) rfl (fun w hw => ⟨.starting, rfl, fun _ => ?_⟩)
      fun _ => Or.inr ⟨rfl, rfl⟩
    cases hw
    rfl
  | added | launched | exited =>
    exact hc.own (hrest nofun) rfl (fun w hw => ⟨w, hw, id⟩) fun _ => Or.inr ⟨rfl, rfl⟩
  | struck => exact hc.other rfl rfl (fun _ => rfl) (Or.inl rfl)
  | stopped => exact hc.other rfl rfl nofun (Or.inl rfl)
  | _ => exact hc.other rfl rfl (fun _ => rfl) (Or.inr rfl)

def Sole (s : Shared) (ts : Multiset Thread) : Prop := Tallied s ts ∧ Agreed s ts

lemma Sole.step (hc : Sole s (l ::ₘ rest)) (h : step s l a = some (s', l'))
    (hstart : ∀ n, l = .start n → s.state = .stopped → count Thread.stops rest = 0)
    (hload : ∀ k, l = .stop k → count Thread.starts rest = 0)
    (hgive : ∀ k released err, l = .waiting k released → a = .expire err →
      count Thread.loops rest = 0) :
    Sole s' (l' ::ₘ rest) := by
  obtain ⟨ht, ha⟩ := hc
  have hmoved := threadStep_of_step h
  exact ⟨ht.step hmoved hstart hload hgive, ha.step ht hmoved hstart⟩

lemma Sole.request {i : Request} (hc : Sole s rest) (h : request s i = some (s', l)) :
    Sole s' (l ::ₘ rest) := by
  obtain ⟨ht, hclaim, hcancel, hnumbered⟩ := hc
  have hnew : ∀ k ∈ rest, 0 < k.number ∧ k.number ≤ s.calls + 1 :=
    fun k hk => ⟨(hnumbered k hk).1, (hnumbered k hk).2.trans (Nat.le_succ _)⟩
  cases i with
  | start =>
    cases h
    refine ⟨tallied_cons.mpr ⟨ht.one, ht.idle, ht.apart, ht.wg_eq, ht.settled⟩, ?_, ?_, ?_⟩
    · intro k hk w hw hlt
      rcases Multiset.mem_cons.mp hk with rfl | hin
      · cases hw
      · rw [count_cons]
        exact hclaim k hin w hw hlt
    · intro k hk hown hlt
      rcases Multiset.mem_cons.mp hk with rfl | hin
      · cases hown
      · exact hcancel k hin hown hlt
    · intro k hk
      rcases Multiset.mem_cons.mp hk with rfl | hin
      · exact ⟨Nat.succ_pos _, le_rfl⟩
      · exact hnew k hin
  | stop =>
    cases h
    -- every lifecycle is older than the new `Stop`
    have hold : ∀ k ∈ rest, ¬s.calls + 1 < k.number := by
      intro k hk
      have := (hnumbered k hk).2
      omega
    refine ⟨tallied_cons.mpr ⟨ht.one, ht.idle, ht.apart, ht.wg_eq, ht.settled⟩, ?_, ?_, ?_⟩
    · intro k hk w hw hlt
      rcases Multiset.mem_cons.mp hk with rfl | hin
      · cases hw
      · exact absurd hlt (hold k hin)
    · intro k hk hown hlt
      rcases Multiset.mem_cons.mp hk with rfl | hin
      · cases hown
      · exact absurd hlt (hold k hin)
    · intro k hk
      rcases Multiset.mem_cons.mp hk with rfl | hin
      · exact ⟨Nat.succ_pos _, le_rfl⟩
      · exact hnew k hin

lemma sole_start : Sole {} 0 := by
  refine ⟨⟨Nat.zero_le 1, fun _ => rfl, Or.inl rfl, rfl, Or.inl rfl⟩, ?_, ?_, ?_⟩
  · exact fun l hl => absurd hl (Multiset.notMem_zero l)
  · exact fun l hl => absurd hl (Multiset.notMem_zero l)
  · exact fun l hl => absurd hl (Multiset.notMem_zero l)

variable {c d : System Shared Thread} {m : Move Request Action}

lemma count_rest_eq_zero {f : Thread → Bool} (hc : (c.threads : Multiset Thread) = l ::ₘ rest)
    (h : ∀ k ∈ c.threads, f k = false) : count f rest = 0 := by
  refine count_eq_zero.mpr fun k hk => h k ?_
  rw [← Multiset.mem_coe, hc]
  exact Multiset.mem_cons_of_mem hk

lemma Sole.next (hc : Sole c.shared c.threads) (hm : Orderly c m) (h : program.next c m = some d) :
    Sole d.shared d.threads := by
  rcases Program.next_cases h with ⟨i, s, l, -, hcall, rfl, hd⟩ |
    ⟨tid, a, l, s, l', rest, rfl, hl, hstep, hthreads, rfl, hd⟩ |
    ⟨tid, tid', l, k, s, l', k', rest, -, hmeet, -⟩
  · rw [hd]
    exact hc.request hcall
  · have hpermits := hm l hl
    rw [hthreads] at hc
    rw [hd]
    apply hc.step hstep
    · rintro n rfl hstate
      exact count_rest_eq_zero hthreads (hpermits.1 rfl hstate)
    · rintro k rfl
      exact count_rest_eq_zero hthreads (hpermits.2.1 rfl)
    · rintro k released err rfl rfl
      exact count_rest_eq_zero hthreads (hpermits.2.2 rfl)
  · cases hmeet

structure Unique (c : System Shared Thread) : Prop where
  one_live : c.threads.countP Thread.isLive ≤ 1
  running : ∀ n, .live n ∈ c.threads → c.shared.lastStop < n → c.shared.isRunning = true

lemma Thread.loops_of_isLive (h : l.isLive = true) : l.loops = true := by
  cases l <;> first | rfl | cases h

lemma Sole.unique (hc : Sole c.shared c.threads) : Unique c := by
  obtain ⟨ht, ha⟩ := hc
  constructor
  · have hle : count Thread.isLive (c.threads : Multiset Thread) ≤
        count Thread.loops (c.threads : Multiset Thread) := count_le fun _ => Thread.loops_of_isLive
    have hone := ht.one
    rw [← count_coe]
    omega
  · intro n hn hlt
    have hstate := (ha.claim (.live n) hn .running rfl hlt).2
    simp [Shared.isRunning, hstate]

end MailBaby.Lifecycle

namespace MailBaby.Proofs

open Lib Lifecycle

/-- In every state of every orderly run there is at most one live loop, and the engine says that
it runs unless it was told to stop. -/
theorem lifecycle_unique {ms : List (Move Request Action)} {c : System Shared Thread}
    (hrun : program.Runs {} ms c) (horderly : Along program.next Orderly { shared := {} } ms) :
    Unique c := by
  refine Sole.unique (run_invariant_along (I := fun c => Sole c.shared c.threads) ?_ sole_start
    horderly hrun)
  intro c m d hc hm hd
  exact hc.next hm hd

def launch (tid : Nat) : List (Move Request Action) :=
  [.call .start, .step tid .proceed, .step tid (.obtain none), .step tid .proceed,
    .step tid .proceed, .step tid .proceed, .step tid .proceed]

def restarted : List (Move Request Action) :=
  launch 0 ++ [.call .stop, .step 1 .proceed, .step 1 .proceed, .step 1 .proceed, .step 0 .exit,
    .step 0 .proceed, .step 0 .proceed, .step 1 .release, .step 1 .proceed, .step 1 .proceed] ++ launch 2

theorem lifecycle_unique_restarted : ∃ c, program.Runs {} restarted c ∧
    Along program.next Orderly { shared := {} } restarted ∧ .live 3 ∈ c.threads ∧ Unique c := by
  have hrun : program.Runs {} restarted
      ⟨{ state := .running, cancelFunc := some 3, wg := 1, cancelled := [1], calls := 3, lastStop := 2 },
        [.ended 1, .stopReturned 2 none, .live 3]⟩ := rfl
  have horderly : Along program.next Orderly { shared := {} } restarted := by decide
  exact ⟨_, hrun, horderly, by decide, lifecycle_unique hrun horderly⟩

def abandonedLoop : List (Move Request Action) :=
  launch 0 ++ [.call .stop, .step 1 .proceed, .step 1 .proceed, .step 1 .proceed,
    .step 1 (.expire ⟨"context deadline exceeded"⟩), .step 1 .proceed] ++ launch 2

/-- Two loops are live; then the late store of the first makes the second look stopped. -/
theorem two_live_loops :
    (∃ c, program.Runs {} abandonedLoop c ∧ c.threads.countP Thread.isLive = 2) ∧
    ∃ c, program.Runs {} (abandonedLoop ++ [.step 0 .exit, .step 0 .proceed]) c ∧
      .live 3 ∈ c.threads ∧ c.shared.lastStop = 2 ∧ c.shared.state = .stopped ∧
      c.shared.checkHealth none = some errEngineNotRunning := by
  have hfirst : program.Runs {} abandonedLoop
      ⟨{ state := .running, cancelFunc := some 3, wg := 2, cancelled := [1], calls := 3, lastStop := 2 },
        [.live 1, .stopReturned 2 (some ⟨"context deadline exceeded"⟩), .live 3]⟩ := rfl
  have hsecond : program.Runs {} (abandonedLoop ++ [.step 0 .exit, .step 0 .proceed])
      ⟨{ state := .stopped, cancelFunc := some 3, wg := 2, cancelled := [1], calls := 3, lastStop := 2 },
        [.finishing 1, .stopReturned 2 (some ⟨"context deadline exceeded"⟩), .live 3]⟩ := rfl
  exact ⟨⟨_, hfirst, by decide⟩, _, hsecond, by decide, rfl, rfl, rfl⟩

end MailBaby.Proofs
