import MailBaby.Proofs.Lifecycle

/-!
# What `Stop` leaves behind

One `Stop` among any number of `Start` calls. Up to its call the lifecycles follow each other, so at most
one loop is older than it.
-/

namespace MailBaby.Lifecycle

open Lib

namespace Thread

def isStop : Thread → Bool
  | stop _ => true
  | loaded .. => true
  | cancelling _ => true
  | waiting .. => true
  | storingStopped .. => true
  | stopReturned .. => true
  | _ => false

def pends : Thread → Bool
  | start _ => true
  | l => l.starts

def waits : Thread → Bool
  | waiting .. => true
  | _ => false

def drained : Thread → Bool
  | waiting _ true => true
  | storingStopped _ none => true
  | stopReturned _ none => true
  | _ => false

def gaveUp : Thread → Bool
  | storingStopped _ (some _) => true
  | stopReturned _ (some _) => true
  | _ => false

def early (k : Nat) (l : Thread) : Bool := l.loops && decide (l.number < k)

end Thread

variable {k : Nat} {s s' : Shared} {l l' : Thread} {a : Action} {ts rest : Multiset Thread}

/-- What holds from the call of `Stop` number `k` on. -/
structure Watched (k : Nat) (s : Shared) (ts : Multiset Thread) : Prop where
  called : k ≤ s.calls
  one_stop : count Thread.isStop ts = 1
  stop_number : ∀ l ∈ ts, l.isStop = true → l.number = k
  launched : ∀ l ∈ ts, l.number < k → l.pends = false
  wg_eq : s.wg = count Thread.counted ts
  held : count Thread.gaveUp ts = 0 → 0 < count (Thread.early k) ts →
    s.state ≠ .stopped ∧ count Thread.starts ts + count Thread.loops ts = 1
  owner : count Thread.gaveUp ts = 0 → ∀ l ∈ ts, l.early k = true → s.cancelFunc = some l.number
  cancelled : 0 < count Thread.waits ts → ∀ l ∈ ts, l.early k = true → l.number ∈ s.cancelled
  drained : 0 < count Thread.drained ts → count (Thread.early k) ts = 0

lemma Thread.early_of_not_loops (h : l.loops = false) : l.early k = false := by
  simp [early, h]

lemma Thread.early_of_le (h : k ≤ l.number) : l.early k = false := by
  simp [early, Nat.not_lt.mpr h]

lemma Thread.loops_of_early (h : l.early k = true) : l.loops = true := by
  simp only [early, Bool.and_eq_true] at h
  exact h.1

lemma Thread.isStop_of_stops (h : l.stops = true) : l.isStop = true := by
  cases l <;> first | rfl | cases h

lemma Thread.isStop_of_waits (h : l.waits = true) : l.isStop = true := by
  cases l <;> first | rfl | cases h

lemma Thread.isStop_of_drained (h : l.drained = true) : l.isStop = true := by
  cases l <;> first | rfl | cases h

lemma Thread.isStop_of_gaveUp (h : l.gaveUp = true) : l.isStop = true := by
  cases l <;> first | rfl | cases h

lemma Thread.not_drained_waits (h : l.isStop = false) :
    l.waits = false ∧ l.drained = false ∧ l.gaveUp = false := by
  cases l <;> first | exact ⟨rfl, rfl, rfl⟩ | cases h

lemma Watched.of_start (hw : Watched k s (l ::ₘ rest)) (hl : l.isStop = false)
    (hl' : l'.isStop = false)
    (hsame : (s'.calls, s'.cancelled, l'.number) = (s.calls, s.cancelled, l.number))
    (hpends : l'.pends = true → l.pends = true) (hearly : l'.early k = true → l.early k = true)
    (hwg : s'.wg = count Thread.counted (l' ::ₘ rest))
    (hheld : count Thread.gaveUp rest = 0 → 0 < count (Thread.early k) (l' ::ₘ rest) →
      s'.state ≠ .stopped ∧ s'.cancelFunc = s.cancelFunc ∧
        count Thread.starts (l' ::ₘ rest) + count Thread.loops (l' ::ₘ rest) = 1) :
    Watched k s' (l' ::ₘ rest) := by
  simp only [Prod.mk.injEq] at hsame
  obtain ⟨hcalls, hcancelled, hnumber⟩ := hsame
  obtain ⟨hwaits, hdrained, hgaveUp⟩ := Thread.not_drained_waits hl
  obtain ⟨hwaits', hdrained', hgaveUp'⟩ := Thread.not_drained_waits hl'
  have hle : count (Thread.early k) (l' ::ₘ rest) ≤ count (Thread.early k) (l ::ₘ rest) := by
    rw [count_cons, count_cons]
    cases he : l'.early k with
    | false => exact Nat.add_le_add_left (Nat.zero_le _) _
    | true => rw [hearly he]
  -- what an early loop among the new threads was among the old ones
  have hold : ∀ j ∈ l' ::ₘ rest, j.early k = true →
      ∃ i ∈ l ::ₘ rest, i.early k = true ∧ i.number = j.number := by
    intro j hj he
    rcases Multiset.mem_cons.mp hj with rfl | hin
    · exact ⟨l, Multiset.mem_cons_self _ _, hearly he, hnumber.symm⟩
    · exact ⟨j, Multiset.mem_cons_of_mem hin, he, rfl⟩
  obtain ⟨hcalled, hone, hnum, hlaunched, -, -, howner, hcancel, hempty⟩ := hw
  simp only [count_cons, hl, hwaits, hdrained, hgaveUp, Bool.toNat_false, Nat.add_zero]
    at hone howner hcancel hempty
  refine ⟨by rw [hcalls]; exact hcalled, ?_, ?_, ?_, hwg, ?_, ?_, ?_, ?_⟩
  · rw [count_cons, hl']
    exact hone
  · intro j hj hstop
    rcases Multiset.mem_cons.mp hj with rfl | hin
    · rw [hl'] at hstop
      cases hstop
    · exact hnum j (Multiset.mem_cons_of_mem hin) hstop
  · intro j hj hlt
    rcases Multiset.mem_cons.mp hj with rfl | hin
    · rw [hnumber] at hlt
      have hfalse := hlaunched l (Multiset.mem_cons_self _ _) hlt
      cases hp : j.pends with
      | false => rfl
      | true =>
        rw [hpends hp] at hfalse
        cases hfalse
    · exact hlaunched j (Multiset.mem_cons_of_mem hin) hlt
  · intro hgave hpos
    rw [count_cons, hgaveUp'] at hgave
    obtain ⟨hstate, -, hactive⟩ := hheld hgave hpos
    exact ⟨hstate, hactive⟩
  · intro hgave j hj he
    rw [count_cons, hgaveUp'] at hgave
    have hpos : 0 < count (Thread.early k) (l' ::ₘ rest) := count_pos.mpr ⟨j, hj, he⟩
    obtain ⟨i, hi, hei, hnumi⟩ := hold j hj he
    rw [(hheld hgave hpos).2.1, ← hnumi]
    exact howner hgave i hi hei
  · intro hpos j hj he
    rw [count_cons, hwaits'] at hpos
    obtain ⟨i, hi, hei, hnumi⟩ := hold j hj he
    rw [hcancelled, ← hnumi]
    exact hcancel hpos i hi hei
  · intro hpos
    rw [count_cons, hdrained'] at hpos
    have hzero := hempty hpos
    rw [← count_cons] at hzero
    omega

lemma Watched.le_of_pends (hw : Watched k s (l ::ₘ rest)) (hl : l.pends = true) : k ≤ l.number := by
  by_contra hlt
  have hfalse := hw.launched l (Multiset.mem_cons_self _ _) (Nat.not_le.mp hlt)
  rw [hl] at hfalse
  cases hfalse

lemma Watched.no_early (hw : Watched k s (l ::ₘ rest)) (hl : l.pends = true)
    (hfree : l.starts = true ∨ s.state = .stopped) (hgave : count Thread.gaveUp rest = 0) :
    count (Thread.early k) rest = 0 := by
  by_contra hne
  have hstop : l.gaveUp = false := by cases l <;> first | rfl | cases hl
  have hloops : l.loops = false := by cases l <;> first | rfl | cases hl
  have hle : count (Thread.early k) rest ≤ count Thread.loops rest :=
    count_le fun _ => Thread.loops_of_early
  obtain ⟨hstate, hactive⟩ := hw.held (by rw [count_cons, hstop, hgave]; rfl)
    (by rw [count_cons]; omega)
  rcases hfree with hs | hs
  · simp only [count_cons, hs, hloops, Bool.toNat_true, Bool.toNat_false] at hactive
    omega
  · exact hstate hs

lemma Thread.stop_apart (h : l.isStop = true) :
    l.starts = false ∧ l.loops = false ∧ l.counted = false ∧ l.pends = false := by
  cases l <;> first | exact ⟨rfl, rfl, rfl, rfl⟩ | cases h

lemma Watched.only_stop (hw : Watched k s (l ::ₘ rest)) (hl : l.isStop = true) :
    count Thread.isStop rest = 0 ∧ count Thread.gaveUp rest = 0 ∧ count Thread.waits rest = 0 ∧
      count Thread.drained rest = 0 := by
  have hone := hw.one_stop
  rw [count_cons, hl, Bool.toNat_true] at hone
  have hrest : count Thread.isStop rest = 0 := by omega
  exact ⟨hrest, count_eq_zero_of_imp (fun _ => Thread.isStop_of_gaveUp) hrest,
    count_eq_zero_of_imp (fun _ => Thread.isStop_of_waits) hrest,
    count_eq_zero_of_imp (fun _ => Thread.isStop_of_drained) hrest⟩

lemma Watched.of_stop (hw : Watched k s (l ::ₘ rest)) (hl : l.isStop = true) (hl' : l'.isStop = true)
    (hsame : (s'.calls, s'.wg, s'.cancelFunc, l'.number) = (s.calls, s.wg, s.cancelFunc, l.number))
    (hgaveUp : l'.gaveUp = false → l.gaveUp = false)
    (hstate : l'.gaveUp = false → 0 < count (Thread.early k) rest → s.state ≠ .stopped →
      s'.state ≠ .stopped)
    (hcancelled : l'.waits = true → (l.waits = true ∧ s'.cancelled = s.cancelled) ∨
      s'.cancelled = s.cancelFunc.toList ++ s.cancelled)
    (hdrained : l'.drained = true → count (Thread.early k) rest = 0) :
    Watched k s' (l' ::ₘ rest) := by
  simp only [Prod.mk.injEq] at hsame
  obtain ⟨hcalls, hwg, hcancel, hnumber⟩ := hsame
  obtain ⟨hstarts, hloops, hcounted, -⟩ := Thread.stop_apart hl
  obtain ⟨hstarts', hloops', hcounted', hpends'⟩ := Thread.stop_apart hl'
  have hearly := Thread.early_of_not_loops (k := k) hloops
  have hearly' := Thread.early_of_not_loops (k := k) hloops'
  obtain ⟨hrest, hgave0, hwaits0, hdrained0⟩ := hw.only_stop hl
  obtain ⟨hcalled, -, hnum, hlaunched, hwgc, hheld, howner, hcanc, -⟩ := hw
  simp only [count_cons, hstarts, hloops, hcounted, hearly, hgave0, hwaits0, Bool.toNat_false,
    Nat.add_zero, Nat.zero_add, Bool.toNat_eq_zero, toNat_pos] at hwgc hheld howner hcanc
  have hin : ∀ j ∈ l' ::ₘ rest, j.early k = true → j ∈ l ::ₘ rest := by
    intro j hj he
    rcases Multiset.mem_cons.mp hj with rfl | hmem
    · rw [hearly'] at he
      cases he
    · exact Multiset.mem_cons_of_mem hmem
  constructor
  · rw [hcalls]
    exact hcalled
  · rw [count_cons, hl', hrest]
    rfl
  · intro j hj hstop
    rcases Multiset.mem_cons.mp hj with rfl | hmem
    · rw [hnumber]
      exact hnum l (Multiset.mem_cons_self _ _) hl
    · exact hnum j (Multiset.mem_cons_of_mem hmem) hstop
  · intro j hj hlt
    rcases Multiset.mem_cons.mp hj with rfl | hmem
    · exact hpends'
    · exact hlaunched j (Multiset.mem_cons_of_mem hmem) hlt
  · rw [hwg, count_cons, hcounted']
    exact hwgc
  · simp only [count_cons, hstarts', hloops', hearly', hgave0, Bool.toNat_false, Nat.add_zero,
      Nat.zero_add, Bool.toNat_eq_zero]
    intro hgave hpos
    obtain ⟨hs, hactive⟩ := hheld (hgaveUp hgave) hpos
    exact ⟨hstate hgave hpos hs, hactive⟩
  · simp only [count_cons, hgave0, Nat.zero_add, Bool.toNat_eq_zero]
    intro hgave j hj he
    rw [hcancel]
    exact howner (hgaveUp hgave) j (hin j hj he) he
  · simp only [count_cons, hwaits0, Nat.zero_add, toNat_pos]
    intro hwait j hj he
    rcases hcancelled hwait with ⟨hwaited, heq⟩ | heq
    · rw [heq]
      exact hcanc hwaited j (hin j hj he) he
    · have hlg : l.gaveUp = false := hgaveUp (by cases l' <;> first | rfl | cases hwait)
      rw [heq, howner hlg j (hin j hj he) he]
      exact List.mem_append_left _ (List.mem_singleton_self _)
  · simp only [count_cons, hdrained0, hearly', Nat.zero_add, Bool.toNat_false, Nat.add_zero,
      toNat_pos]
    exact hdrained

lemma Watched.rest_early (hw : Watched k s (l ::ₘ rest)) (hl : l.isStop = true)
    (hdrained : l.drained = true ∨ s.wg = 0 ∨ l.gaveUp = false ∧ s.state = .stopped) :
    count (Thread.early k) rest = 0 := by
  have hle : count (Thread.early k) rest ≤ count Thread.loops rest :=
    count_le fun _ => Thread.loops_of_early
  have hloops : count Thread.loops rest ≤ count Thread.counted rest :=
    count_le fun _ => Thread.counted_of_loops
  rcases hdrained with hd | hzero | ⟨hgave, hstate⟩
  · have hempty := hw.drained (count_pos.mpr ⟨l, Multiset.mem_cons_self _ _, hd⟩)
    rw [count_cons] at hempty
    omega
  · have hwg := hw.wg_eq
    rw [hzero, count_cons] at hwg
    omega
  · by_contra hne
    refine (hw.held ?_ ?_).1 hstate
    · rw [count_cons, (hw.only_stop hl).2.1, hgave]
      rfl
    · rw [count_cons]
      omega

lemma Watched.step (hw : Watched k s (l ::ₘ rest)) (h : ThreadStep s l a s' l') :
    Watched k s' (l' ::ₘ rest) := by
  have hwg := hw.wg_eq
  have hno {P : Prop} : false = true → P := (absurd · Bool.false_ne_true)
  have hoff {P : Prop} : true = false → P := (absurd · Bool.true_eq_false.mp)
  have hheld := hw.held
  rw [count_cons] at hwg
  simp only [count_cons] at hheld
  have hnone : ∀ {j : Thread}, j.number = l.number → l.pends = true → l.starts = true ∨ s.state = .stopped →
      count Thread.gaveUp rest = 0 → ¬0 < count (Thread.early k) (j ::ₘ rest) := by
    intro j hnum hpends hfree hgave
    rw [count_cons, hw.no_early hpends hfree hgave,
      Thread.early_of_le (by rw [hnum]; exact hw.le_of_pends hpends)]
    exact Nat.lt_irrefl 0
  cases h with
  | won n hstate =>
    exact hw.of_start rfl rfl rfl (fun _ => rfl) hno (by rw [count_cons]; exact hwg)
      fun hgave hpos => absurd hpos (hnone rfl rfl (Or.inr hstate) hgave)
  | lost n =>
    refine hw.of_start rfl rfl rfl hno hno (by rw [count_cons]; exact hwg) fun hgave hpos => ?_
    rw [count_cons] at hpos
    obtain ⟨hstate, hactive⟩ := hheld hgave hpos
    rw [count_cons, count_cons]
    exact ⟨hstate, rfl, hactive⟩
  | obtained | refused | rolledBack | cancelSet | ran =>
    exact hw.of_start rfl rfl rfl (fun _ => rfl) hno (by rw [count_cons]; exact hwg)
      fun hgave hpos => absurd hpos (hnone rfl rfl (Or.inl rfl) hgave)
  | added =>
    exact hw.of_start rfl rfl rfl (fun _ => rfl) hno
      (by rw [count_cons]; exact congrArg (· + 1) hwg)
      fun hgave hpos => absurd hpos (hnone rfl rfl (Or.inl rfl) hgave)
  | launched n =>
    have hlate : (Thread.live n).early k = false := Thread.early_of_le (hw.le_of_pends rfl)
    exact hw.of_start rfl rfl rfl hno (fun he => by rw [hlate] at he; cases he)
      (by rw [count_cons]; exact hwg)
      fun hgave hpos => absurd hpos (hnone rfl rfl (Or.inl rfl) hgave)
  | exited n =>
    refine hw.of_start rfl rfl rfl hno id (by rw [count_cons]; exact hwg)
      fun hgave hpos => ?_
    rw [count_cons] at hpos
    obtain ⟨hstate, hactive⟩ := hheld hgave hpos
    rw [count_cons, count_cons]
    exact ⟨hstate, rfl, hactive⟩
  | stored n =>
    -- this loop is the only one, so no early loop is left behind it
    refine hw.of_start rfl rfl rfl hno hno
      (by rw [count_cons]; exact hwg) fun hgave hpos => ?_
    have hrest : 0 < count (Thread.early k) rest := by
      rw [count_cons, Thread.early_of_not_loops rfl] at hpos
      exact hpos
    have hle : count (Thread.early k) rest ≤ count Thread.loops rest :=
      count_le fun _ => Thread.loops_of_early
    obtain ⟨-, hactive⟩ := hheld hgave (Nat.add_pos_left hrest _)
    simp only [Thread.starts, Thread.loops, Bool.toNat_true, Bool.toNat_false] at hactive
    omega
  | finished n =>
    refine hw.of_start rfl rfl rfl hno hno
      (by rw [count_cons]; exact congrArg (· - 1) hwg) fun hgave hpos => ?_
    rw [count_cons] at hpos
    obtain ⟨hstate, hactive⟩ := hheld hgave hpos
    rw [count_cons, count_cons]
    exact ⟨hstate, rfl, hactive⟩
  | idle n hstate =>
    exact hw.of_stop rfl rfl rfl (fun _ => rfl) (fun _ _ => id) hno
      fun _ => hw.rest_early rfl (Or.inr (Or.inr ⟨rfl, hstate⟩))
  | read | retried => exact hw.of_stop rfl rfl rfl (fun _ => rfl) (fun _ _ => id) hno hno
  | struck => exact hw.of_stop rfl rfl rfl (fun _ => rfl) (fun _ _ _ h => by cases h) hno hno
  | cancelled => exact hw.of_stop rfl rfl rfl (fun _ => rfl) (fun _ _ => id) (fun _ => Or.inr rfl) hno
  | released n hzero =>
    exact hw.of_stop rfl rfl rfl (fun _ => rfl) (fun _ _ => id) (fun _ => Or.inl ⟨rfl, rfl⟩)
      fun _ => hw.rest_early rfl (Or.inr (Or.inl hzero))
  | drained =>
    exact hw.of_stop rfl rfl rfl (fun _ => rfl) (fun _ _ => id) hno
      fun _ => hw.rest_early rfl (Or.inl rfl)
  | expired => exact hw.of_stop rfl rfl rfl hoff hoff hno hno
  | stopped n err =>
    cases err with
    | none =>
      have hempty := hw.rest_early rfl (Or.inl rfl)
      exact hw.of_stop rfl rfl rfl (fun _ => rfl) (fun _ hpos => absurd hempty (Nat.ne_of_gt hpos))
        hno fun _ => hempty
    | some err => exact hw.of_stop rfl rfl rfl hoff hoff hno hno

lemma Watched.call_start (hw : Watched k s ts) :
    Watched k { s with calls := s.calls + 1 } (.start (s.calls + 1) ::ₘ ts) := by
  have hcalled := hw.called
  have hearly : (Thread.start (s.calls + 1)).early k = false := rfl
  have hin : ∀ j ∈ .start (s.calls + 1) ::ₘ ts, j.early k = true → j ∈ ts := by
    intro j hj he
    rcases Multiset.mem_cons.mp hj with rfl | hmem
    · cases he
    · exact hmem
  constructor
  · exact hcalled.trans (Nat.le_succ _)
  · rw [count_cons_of_false rfl]
    exact hw.one_stop
  · intro j hj hstop
    rcases Multiset.mem_cons.mp hj with rfl | hmem
    · cases hstop
    · exact hw.stop_number j hmem hstop
  · intro j hj hlt
    rcases Multiset.mem_cons.mp hj with rfl | hmem
    · exact absurd hlt (Nat.not_lt.mpr (hcalled.trans (Nat.le_succ _)))
    · exact hw.launched j hmem hlt
  · rw [count_cons_of_false rfl]
    exact hw.wg_eq
  · rw [count_cons_of_false rfl, count_cons_of_false hearly, count_cons_of_false rfl, count_cons_of_false rfl]
    exact hw.held
  · rw [count_cons_of_false rfl]
    exact fun hgave j hj he => hw.owner hgave j (hin j hj he) he
  · rw [count_cons_of_false rfl]
    exact fun hpos j hj he => hw.cancelled hpos j (hin j hj he) he
  · rw [count_cons_of_false rfl, count_cons_of_false hearly]
    exact hw.drained

lemma Thread.claim_of_loops (h : l.loops = true) : l.claim = some .running := by
  cases l <;> first | rfl | cases h

lemma Thread.owns_of_loops (h : l.loops = true) : l.owns = true := by
  cases l <;> first | rfl | cases h

lemma Sole.call_stop (hc : Sole s ts) (hnone : count Thread.isStop ts = 0) (hlast : s.lastStop = 0)
    (hpends : ∀ l ∈ ts, l.pends = false) :
    Watched (s.calls + 1) { s with calls := s.calls + 1, lastStop := s.calls + 1 }
      (.stop (s.calls + 1) ::ₘ ts) := by
  obtain ⟨ht, ha⟩ := hc
  have hwaits : count Thread.waits ts = 0 :=
    count_eq_zero_of_imp (fun _ => Thread.isStop_of_waits) hnone
  have hdrained : count Thread.drained ts = 0 :=
    count_eq_zero_of_imp (fun _ => Thread.isStop_of_drained) hnone
  have hloop : ∀ j ∈ .stop (s.calls + 1) ::ₘ ts, j.early (s.calls + 1) = true →
      j ∈ ts ∧ j.loops = true := by
    intro j hj he
    rcases Multiset.mem_cons.mp hj with rfl | hmem
    · cases he
    · exact ⟨hmem, Thread.loops_of_early he⟩
  have hpos : ∀ j ∈ ts, s.lastStop < j.number := by
    intro j hj
    rw [hlast]
    exact (ha.numbered j hj).1
  constructor
  · exact le_rfl
  · rw [count_cons, hnone]
    rfl
  · intro j hj hstop
    rcases Multiset.mem_cons.mp hj with rfl | hmem
    · rfl
    · rw [count_eq_zero.mp hnone j hmem] at hstop
      cases hstop
  · intro j hj hlt
    rcases Multiset.mem_cons.mp hj with rfl | hmem
    · rfl
    · exact hpends j hmem
  · rw [count_cons_of_false rfl]
    exact ht.wg_eq
  · intro _ hearly
    obtain ⟨j, hj, he⟩ := count_pos.mp hearly
    obtain ⟨hmem, hl⟩ := hloop j hj he
    rw [count_cons_of_false rfl, count_cons_of_false rfl]
    constructor
    · rw [(ha.claim j hmem .running (Thread.claim_of_loops hl) (hpos j hmem)).2]
      exact nofun
    · have hcount : 0 < count Thread.loops ts := count_pos.mpr ⟨j, hmem, hl⟩
      have hone := ht.one
      omega
  · intro _ j hj he
    obtain ⟨hmem, hl⟩ := hloop j hj he
    exact ha.cancel j hmem (Thread.owns_of_loops hl) (hpos j hmem)
  · rw [count_cons_of_false rfl, hwaits]
    exact fun h => absurd h (Nat.lt_irrefl 0)
  · rw [count_cons_of_false rfl, hdrained]
    exact fun h => absurd h (Nat.lt_irrefl 0)

variable {c d : System Shared Thread} {m : Move Request Action}

def NonePending (c : System Shared Thread) (m : Move Request Action) : Prop :=
  m = .call .stop → ∀ l ∈ c.threads, l.pends = false

instance : Decidable (NonePending c m) := inferInstanceAs (Decidable (_ → _))

def FirstStop (c : System Shared Thread) (m : Move Request Action) : Prop :=
  m = .call .stop → count Thread.isStop (c.threads : Multiset Thread) = 0

lemma step_frame (h : step s l a = some (s', l')) :
    (l'.isStop, s'.lastStop) = (l.isStop, s.lastStop) := by
  cases threadStep_of_step h <;> rfl

lemma count_isStop_next (h : program.next c m = some d) :
    count Thread.isStop (d.threads : Multiset Thread) ≤
      count Thread.isStop (c.threads : Multiset Thread) + if m = .call .stop then 1 else 0 := by
  rcases Program.next_cases h with ⟨i, s, l, rfl, hcall, -, hd⟩ |
    ⟨tid, a, l, s, l', rest, rfl, -, hstep, hc, -, hd⟩ |
    ⟨tid, tid', l, k, s, l', k', rest, -, hmeet, -⟩
  · rw [hd, count_cons]
    cases i <;> cases hcall <;> simp [Thread.isStop]
  · have hstop : l'.isStop = l.isStop := congrArg Prod.fst (step_frame hstep)
    rw [hd, hc, count_cons, count_cons, hstop]
    exact Nat.le_add_right _ _
  · cases hmeet

lemma along_firstStop {ms : List (Move Request Action)}
    (h : count Thread.isStop (c.threads : Multiset Thread) + ms.count (.call .stop) ≤ 1) :
    Along program.next FirstStop c ms := by
  induction ms generalizing c with
  | nil => trivial
  | cons m ms ih =>
    rw [List.count_cons] at h
    refine ⟨?_, fun d hd => ih ?_⟩
    · rintro rfl
      simp only [BEq.rfl, if_true] at h
      omega
    · have hle := count_isStop_next hd
      by_cases hm : m = .call .stop
      · simp only [hm, BEq.rfl, if_true] at h hle
        omega
      · simp only [beq_iff_eq, hm, if_false] at h hle
        omega

def Supervised (c : System Shared Thread) : Prop :=
  (count Thread.isStop (c.threads : Multiset Thread) = 0 ∧ c.shared.lastStop = 0 ∧
    Sole c.shared c.threads) ∨ ∃ k, Watched k c.shared c.threads

lemma Sole.step_of_no_stop (hc : Sole s (l ::ₘ rest)) (hnone : count Thread.isStop (l ::ₘ rest) = 0)
    (h : Lifecycle.step s l a = some (s', l')) :
    count Thread.isStop (l' ::ₘ rest) = 0 ∧ Sole s' (l' ::ₘ rest) := by
  obtain ⟨hl, hrest⟩ := count_cons_eq_zero.mp hnone
  obtain ⟨hstop, -⟩ := Prod.mk.inj (step_frame h)
  refine ⟨count_cons_eq_zero.mpr ⟨hstop.trans hl, hrest⟩, hc.step h ?_ ?_ ?_⟩
  · exact fun _ _ _ => count_eq_zero_of_imp (fun _ => Thread.isStop_of_stops) hrest
  · rintro k rfl
    cases hl
  · rintro k released err rfl
    cases hl

lemma Supervised.next (hc : Supervised c) (hpend : NonePending c m) (hfirst : FirstStop c m)
    (h : program.next c m = some d) : Supervised d := by
  rcases Program.next_cases h with ⟨i, s, l, rfl, hcall, rfl, hd⟩ |
    ⟨tid, a, l, s, l', rest, rfl, hl, hstep, hthreads, rfl, hd⟩ |
    ⟨tid, tid', l, k, s, l', k', rest, -, hmeet, -⟩
  · unfold Supervised
    rw [hd]
    cases i with
    | start =>
      rcases hc with ⟨hnone, hlast, hsole⟩ | ⟨k, hw⟩
      · have hsole' := hsole.request (i := .start) hcall
        obtain ⟨hs, rfl⟩ := Prod.mk.inj (Option.some.inj hcall)
        refine Or.inl ⟨?_, ?_, hsole'⟩
        · rw [count_cons, hnone]
          rfl
        · rw [← hs]
          exact hlast
      · obtain ⟨hs, rfl⟩ := Prod.mk.inj (Option.some.inj hcall)
        rw [← hs]
        exact Or.inr ⟨k, hw.call_start⟩
    | stop =>
      obtain ⟨hs, rfl⟩ := Prod.mk.inj (Option.some.inj hcall)
      rw [← hs]
      rcases hc with ⟨hnone, hlast, hsole⟩ | ⟨k, hw⟩
      · exact Or.inr ⟨_, hsole.call_stop hnone hlast (hpend rfl)⟩
      · have hone := hw.one_stop
        rw [hfirst rfl] at hone
        cases hone
  · unfold Supervised at hc ⊢
    rw [hthreads] at hc
    rw [hd]
    rcases hc with ⟨hnone, hlast, hsole⟩ | ⟨k, hw⟩
    · obtain ⟨-, hlast'⟩ := Prod.mk.inj (step_frame hstep)
      obtain ⟨hnone', hsole'⟩ := hsole.step_of_no_stop hnone hstep
      exact Or.inl ⟨hnone', hlast'.trans hlast, hsole'⟩
    · exact Or.inr ⟨k, hw.step (threadStep_of_step hstep)⟩
  · cases hmeet

/-- The postcondition of `Stop`: past its call of `cancelFunc` the contexts of all older loops are
cancelled, and once it has returned nil none of these loops is live. -/
structure StopSound (c : System Shared Thread) : Prop where
  cancelled : ∀ k released n, .waiting k released ∈ c.threads → .live n ∈ c.threads → n < k →
    n ∈ c.shared.cancelled
  exited : ∀ k n, .stopReturned k none ∈ c.threads → .live n ∈ c.threads → k ≤ n

lemma Supervised.stopSound (hc : Supervised c) : StopSound c := by
  have hearly : ∀ {k n}, n < k → (Thread.live n).early k = true := by
    intro k n hlt
    simp [Thread.early, Thread.loops, Thread.number, hlt]
  rcases hc with ⟨hnone, -, -⟩ | ⟨k, hw⟩
  · have hno : ∀ l ∈ c.threads, l.isStop = false := fun l hl => count_eq_zero.mp hnone l hl
    constructor
    · intro k released n hin
      cases hno _ hin
    · intro k n hin
      cases hno _ hin
  · constructor
    · intro k' released n hin hlive hlt
      obtain rfl : k' = k := hw.stop_number _ hin rfl
      exact hw.cancelled (count_pos.mpr ⟨_, hin, rfl⟩) _ hlive (hearly hlt)
    · intro k' n hin hlive
      obtain rfl : k' = k := hw.stop_number _ hin rfl
      have hempty := hw.drained (count_pos.mpr ⟨_, hin, rfl⟩)
      by_contra hlt
      have he := hearly (Nat.not_le.mp hlt)
      rw [count_eq_zero.mp hempty _ hlive] at he
      cases he

end MailBaby.Lifecycle

namespace MailBaby.Proofs

open Lib Lifecycle

/-- With one `Stop` among any number of `Start` calls: if no older `Start` has yet to launch its loop
when `Stop` is called, its postcondition holds in every state. -/
theorem stop_sound {ms : List (Move Request Action)} {c : System Shared Thread}
    (hrun : program.Runs {} ms c) (hone : ms.count (.call .stop) ≤ 1)
    (hpend : Along program.next NonePending { shared := {} } ms) : StopSound c := by
  have hfirst : Along program.next FirstStop { shared := {} } ms :=
    along_firstStop (by rw [Multiset.coe_nil, count_zero, Nat.zero_add]; exact hone)
  have hstart : Supervised { shared := {} } := Or.inl ⟨rfl, rfl, sole_start⟩
  refine Supervised.stopSound (run_invariant_along (I := Supervised) ?_ hstart (hpend.and hfirst) hrun)
  intro c m d hc hm hd
  exact hc.next hm.1 hm.2 hd

def stoppedAndRestarted : List (Move Request Action) :=
  launch 0 ++ [.call .stop, .step 1 .proceed, .step 1 .proceed, .step 1 .proceed, .step 0 .exit,
    .step 0 .proceed] ++ launch 2 ++ [.step 2 .exit, .step 2 .proceed, .step 2 .proceed,
    .step 0 .proceed, .step 1 .release, .step 1 .proceed, .step 1 .proceed] ++ launch 3

theorem stop_sound_restarted : ∃ c, program.Runs {} stoppedAndRestarted c ∧
    .stopReturned 2 none ∈ c.threads ∧ .live 4 ∈ c.threads ∧ StopSound c := by
  have hrun : program.Runs {} stoppedAndRestarted
      ⟨{ state := .running, cancelFunc := some 4, wg := 1, cancelled := [1], calls := 4, lastStop := 2 },
        [.ended 1, .stopReturned 2 none, .ended 3, .live 4]⟩ := rfl
  exact ⟨_, hrun, by decide, by decide, stop_sound hrun (by decide) (by decide)⟩

def stoppedWhileStarting : List (Move Request Action) :=
  [.call .start, .step 0 .proceed, .call .stop, .step 1 .proceed, .step 1 .proceed, .step 1 .proceed,
    .step 1 .release, .step 1 .proceed, .step 1 .proceed, .step 0 (.obtain none), .step 0 .proceed,
    .step 0 .proceed, .step 0 .proceed, .step 0 .proceed]

theorem loop_survives_stop : ∃ c, program.Runs {} stoppedWhileStarting c ∧
    .stopReturned 2 none ∈ c.threads ∧ .live 1 ∈ c.threads ∧ c.shared.cancelled = [] := by
  have hrun : program.Runs {} stoppedWhileStarting
      ⟨{ state := .running, cancelFunc := some 1, wg := 1, calls := 2, lastStop := 2 },
        [.live 1, .stopReturned 2 none]⟩ := rfl
  exact ⟨_, hrun, by decide, by decide, rfl⟩

end MailBaby.Proofs
