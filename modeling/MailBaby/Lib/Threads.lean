import Mathlib.Algebra.BigOperators.Group.Multiset.Basic
import Mathlib.Data.List.Perm.Basic
import Mathlib.Data.Multiset.Count
import Mathlib.Data.Multiset.Range
import Mathlib.Tactic.Abel
import MailBaby.Lib.Transition

/-!
# Interleaved threads

A concurrent program is given by what one thread does in one atomic step: it reads and writes
the shared state and moves to its next local state. Any number of calls may be made, each call
is a thread of its own, and the scheduler picks the thread that moves. Two threads move together
when one hands a value to the other over a channel.

Which thread is in which position of the list never matters to an invariant, so the rules below
present the threads as the one that moves and the multiset of all others.
-/

namespace MailBaby.Lib

structure System (σ ℓ : Type) where
  shared : σ
  threads : List ℓ := []

/-- `call` admits a new thread, `step` is one atomic step of a thread, `meet` one of two threads
at once; each is `none` where the thread cannot move. -/
structure Program (σ ℓ ι α : Type) where
  call : σ → ι → Option (σ × ℓ)
  step : σ → ℓ → α → Option (σ × ℓ)
  meet : σ → ℓ → ℓ → Option (σ × ℓ × ℓ) := fun _ _ _ => none

inductive Move (ι α : Type)
  | call (i : ι)
  | step (tid : Nat) (a : α)
  | meet (tid tid' : Nat)
  deriving DecidableEq

namespace Program

variable {σ ℓ ι α : Type} (P : Program σ ℓ ι α)

def next (c : System σ ℓ) : Move ι α → Option (System σ ℓ)
  | .call i => (P.call c.shared i).map fun r => ⟨r.1, c.threads ++ [r.2]⟩
  | .step tid a =>
    c.threads[tid]?.bind fun l =>
      (P.step c.shared l a).map fun r => ⟨r.1, c.threads.set tid r.2⟩
  | .meet tid tid' =>
    if tid = tid' then none
    else c.threads[tid]?.bind fun l => c.threads[tid']?.bind fun k =>
      (P.meet c.shared l k).map fun r => ⟨r.1, (c.threads.set tid r.2.1).set tid' r.2.2⟩

variable {P} in
lemma next_step {s s' : σ} {ls : List ℓ} {tid : Nat} {l l' : ℓ} {a : α} (hl : ls[tid]? = some l)
    (h : P.step s l a = some (s', l')) : P.next ⟨s, ls⟩ (.step tid a) = some ⟨s', ls.set tid l'⟩ := by
  simp only [next, hl, Option.bind_some, h, Option.map_some]

variable {P} in
lemma next_step_last {s s' : σ} {ls : List ℓ} {l l' : ℓ} {a : α} (h : P.step s l a = some (s', l')) :
    P.next ⟨s, ls ++ [l]⟩ (.step ls.length a) = some ⟨s', ls ++ [l']⟩ := by
  rw [next_step List.getElem?_concat_length h, List.set_append_right _ _ le_rfl, Nat.sub_self, List.set_cons_zero]

/-- The runs of the program from a shared state without threads. -/
def Runs (s : σ) (ms : List (Move ι α)) (c : System σ ℓ) : Prop :=
  run P.next { shared := s } ms = some c

end Program

section Count

variable {ℓ : Type} {f g : ℓ → Bool} {ls : Multiset ℓ}

def count (f : ℓ → Bool) (ls : Multiset ℓ) : Nat := ls.countP fun l => f l = true

@[simp] lemma count_zero : count f (0 : Multiset ℓ) = 0 := Multiset.countP_zero _

@[simp] lemma count_cons (l : ℓ) : count f (l ::ₘ ls) = count f ls + (f l).toNat := by
  unfold count
  rw [Multiset.countP_cons]
  cases f l <;> rfl

lemma toNat_pos {b : Bool} : 0 < b.toNat ↔ b = true := by
  cases b <;> decide

lemma count_coe (ls : List ℓ) : count f (ls : Multiset ℓ) = ls.countP f := by
  unfold count
  rw [Multiset.coe_countP]
  simp only [Bool.decide_eq_true]

lemma count_eq_zero : count f ls = 0 ↔ ∀ l ∈ ls, f l = false := by
  unfold count
  rw [Multiset.countP_eq_zero]
  simp only [Bool.not_eq_true]

lemma count_pos : 0 < count f ls ↔ ∃ l ∈ ls, f l = true := Multiset.countP_pos

lemma count_le (h : ∀ l, f l = true → g l = true) : count f ls ≤ count g ls := by
  induction ls using Multiset.induction_on with
  | empty => exact le_rfl
  | cons l ls ih =>
    rw [count_cons, count_cons]
    have hl : (f l).toNat ≤ (g l).toNat := by
      cases hf : f l with
      | false => exact Nat.zero_le _
      | true => rw [h l hf]
    omega

lemma count_cons_of_false {l : ℓ} (h : f l = false) : count f (l ::ₘ ls) = count f ls := by
  rw [count_cons, h]
  rfl

lemma count_cons_eq_zero {l : ℓ} : count f (l ::ₘ ls) = 0 ↔ f l = false ∧ count f ls = 0 := by
  rw [count_cons, Nat.add_eq_zero_iff, Bool.toNat_eq_zero, and_comm]

lemma count_eq_zero_of_imp (h : ∀ l, f l = true → g l = true) (hg : count g ls = 0) :
    count f ls = 0 :=
  Nat.eq_zero_of_le_zero (hg ▸ count_le h)

lemma count_eq_sum : count f ls = (ls.map fun l => (f l).toNat).sum := by
  induction ls using Multiset.induction_on with
  | empty => rfl
  | cons l ls ih => rw [count_cons, ih, Multiset.map_cons, Multiset.sum_cons, Nat.add_comm]

lemma sum_map_filterMap {κ : Type} {index : ℓ → Option κ} {f : ℓ → Nat} {g : κ → Nat}
    (h : ∀ l ∈ ls, f l = ((index l).map g).getD 0) : (ls.map f).sum = ((ls.filterMap index).map g).sum := by
  induction ls using Multiset.induction_on with
  | empty => rfl
  | cons l ls ih =>
    obtain ⟨hl, hls⟩ := Multiset.forall_mem_cons.mp h
    rw [Multiset.map_cons, Multiset.sum_cons, hl, ih hls]
    cases hindex : index l with
    | none =>
      rw [Multiset.filterMap_cons_none _ _ hindex]
      exact Nat.zero_add _
    | some i =>
      rw [Multiset.filterMap_cons_some _ _ _ hindex, Multiset.map_cons, Multiset.sum_cons]
      rfl

end Count

lemma sum_range_any {α : Type} (p : α → Bool) (xs : List α) :
    ((Multiset.range xs.length).map fun i => (xs[i]?.any p).toNat).sum = xs.countP p := by
  induction xs using List.reverseRecOn with
  | nil => rfl
  | append_singleton xs x ih =>
    have hmap : (Multiset.range xs.length).map (fun i => ((xs ++ [x])[i]?.any p).toNat) =
        (Multiset.range xs.length).map fun i => (xs[i]?.any p).toNat := by
      apply Multiset.map_congr rfl
      intro i hi
      rw [List.getElem?_append_left (Multiset.mem_range.mp hi)]
    rw [List.length_append, List.length_singleton, Multiset.range_succ, Multiset.map_cons, Multiset.sum_cons, hmap, ih,
      List.getElem?_concat_length, List.countP_append, Nat.add_comm, List.countP_singleton, Option.any_some]
    cases p x <;> rfl

lemma sum_map_eq_iff_of_le {ℓ : Type} {f g : ℓ → Int} {ls : List ℓ} (h : ∀ l ∈ ls, f l ≤ g l) :
    (ls.map g).sum = (ls.map f).sum ↔ ∀ l ∈ ls, g l = f l := by
  have hle : ∀ {ls : List ℓ}, (∀ l ∈ ls, f l ≤ g l) → (ls.map f).sum ≤ (ls.map g).sum := by
    intro ls
    induction ls with
    | nil => exact fun _ => le_rfl
    | cons l ls ih =>
      intro h
      obtain ⟨hl, hls⟩ := List.forall_mem_cons.mp h
      rw [List.map_cons, List.map_cons, List.sum_cons, List.sum_cons]
      exact Int.add_le_add hl (ih hls)
  induction ls with
  | nil => simp
  | cons l ls ih =>
    obtain ⟨hl, hls⟩ := List.forall_mem_cons.mp h
    have hrest := hle hls
    rw [List.forall_mem_cons, List.map_cons, List.map_cons, List.sum_cons, List.sum_cons]
    constructor
    · intro heq
      exact ⟨by omega, (ih hls).mp (by omega)⟩
    · rintro ⟨hl', hls'⟩
      rw [hl', (ih hls).mpr hls']

section Set

variable {ℓ : Type} {ls : List ℓ} {i j : Nat} {l k : ℓ}

lemma coe_eq_cons_of_getElem? (h : ls[i]? = some l) :
    (ls : Multiset ℓ) = l ::ₘ (ls.eraseIdx i : Multiset ℓ) := by
  obtain ⟨hi, rfl⟩ := List.getElem?_eq_some_iff.mp h
  exact (Multiset.coe_eq_coe.mpr (List.getElem_cons_eraseIdx_perm hi)).symm

lemma coe_set_eq_cons (h : ls[i]? = some l) (l' : ℓ) :
    (ls.set i l' : Multiset ℓ) = l' ::ₘ (ls.eraseIdx i : Multiset ℓ) := by
  obtain ⟨hi, -⟩ := List.getElem?_eq_some_iff.mp h
  exact Multiset.coe_eq_coe.mpr (List.set_perm_cons_eraseIdx hi l')

lemma exists_coe_eq_cons_cons (hij : i ≠ j) (hi : ls[i]? = some l) (hj : ls[j]? = some k) :
    ∃ rest : Multiset ℓ, (ls : Multiset ℓ) = l ::ₘ k ::ₘ rest ∧
      ∀ l' k', ((ls.set i l').set j k' : Multiset ℓ) = l' ::ₘ k' ::ₘ rest := by
  have hj' : ∀ l', (ls.set i l')[j]? = some k := by
    intro l'
    rw [List.getElem?_set_ne hij]
    exact hj
  have hk : k ∈ (ls.eraseIdx i : Multiset ℓ) := by
    rw [Multiset.mem_coe, List.mem_eraseIdx_iff_getElem?]
    exact ⟨j, hij.symm, hj⟩
  obtain ⟨rest, hrest⟩ := Multiset.exists_cons_of_mem hk
  refine ⟨rest, ?_, fun l' k' => ?_⟩
  · rw [coe_eq_cons_of_getElem? hi, hrest]
  · have hset := coe_set_eq_cons (hj' l') k'
    have hcons : (ls.set i l' : Multiset ℓ) = k ::ₘ ((ls.set i l').eraseIdx j : Multiset ℓ) :=
      coe_eq_cons_of_getElem? (hj' l')
    rw [coe_set_eq_cons hi l', hrest, Multiset.cons_swap, Multiset.cons_inj_right] at hcons
    rw [hset, ← hcons, Multiset.cons_swap]

end Set

namespace Program

variable {σ ℓ ι α : Type} {P : Program σ ℓ ι α} {c d : System σ ℓ} {m : Move ι α}

lemma next_cases (h : P.next c m = some d) :
    (∃ i s l, m = .call i ∧ P.call c.shared i = some (s, l) ∧
      d.shared = s ∧ (d.threads : Multiset ℓ) = l ::ₘ c.threads) ∨
    (∃ tid a l s l' rest, m = .step tid a ∧ c.threads[tid]? = some l ∧
      P.step c.shared l a = some (s, l') ∧ (c.threads : Multiset ℓ) = l ::ₘ rest ∧
      d.shared = s ∧ (d.threads : Multiset ℓ) = l' ::ₘ rest) ∨
    (∃ tid tid' l k s l' k' rest, m = .meet tid tid' ∧
      P.meet c.shared l k = some (s, l', k') ∧ (c.threads : Multiset ℓ) = l ::ₘ k ::ₘ rest ∧
      d.shared = s ∧ (d.threads : Multiset ℓ) = l' ::ₘ k' ::ₘ rest) := by
  cases m with
  | call i =>
    obtain ⟨⟨s, l⟩, hcall, rfl⟩ := Option.map_eq_some_iff.mp h
    exact Or.inl ⟨i, s, l, rfl, hcall, rfl, Multiset.coe_eq_coe.mpr (List.perm_append_singleton l _)⟩
  | step tid a =>
    obtain ⟨l, hl, h⟩ := Option.bind_eq_some_iff.mp h
    obtain ⟨⟨s, l'⟩, hstep, rfl⟩ := Option.map_eq_some_iff.mp h
    exact Or.inr (Or.inl ⟨tid, a, l, s, l', _, rfl, hl, hstep, coe_eq_cons_of_getElem? hl, rfl,
      coe_set_eq_cons hl l'⟩)
  | meet tid tid' =>
    simp only [next] at h
    split_ifs at h with htid
    obtain ⟨l, hl, h⟩ := Option.bind_eq_some_iff.mp h
    obtain ⟨k, hk, h⟩ := Option.bind_eq_some_iff.mp h
    obtain ⟨⟨s, l', k'⟩, hmeet, rfl⟩ := Option.map_eq_some_iff.mp h
    obtain ⟨rest, hrest, hset⟩ := exists_coe_eq_cons_cons htid hl hk
    exact Or.inr (Or.inr ⟨tid, tid', l, k, s, l', k', rest, rfl, hmeet, hrest, rfl, hset l' k'⟩)

variable (P) in
/-- An invariant of the shared state and the multiset of threads: it survives every call and
every step, whatever the other threads are. -/
structure Preserves (I : σ → Multiset ℓ → Prop) : Prop where
  call : ∀ {s rest i s' l}, I s rest → P.call s i = some (s', l) → I s' (l ::ₘ rest)
  step : ∀ {s rest l a s' l'}, I s (l ::ₘ rest) → P.step s l a = some (s', l') → I s' (l' ::ₘ rest)
  meet : ∀ {s rest l k s' l' k'}, I s (l ::ₘ k ::ₘ rest) → P.meet s l k = some (s', l', k') →
    I s' (l' ::ₘ k' ::ₘ rest)

namespace Preserves

variable {I : σ → Multiset ℓ → Prop} (hP : P.Preserves I)

include hP

lemma next (hc : I c.shared c.threads) (h : P.next c m = some d) : I d.shared d.threads := by
  rcases next_cases h with ⟨i, s, l, -, hs, rfl, hd⟩ |
    ⟨tid, a, l, s, l', rest, -, -, hs, hrest, rfl, hd⟩ |
    ⟨tid, tid', l, k, s, l', k', rest, -, hs, hrest, rfl, hd⟩
  · rw [hd]
    exact hP.call hc hs
  · rw [hd]
    rw [hrest] at hc
    exact hP.step hc hs
  · rw [hd]
    rw [hrest] at hc
    exact hP.meet hc hs

theorem run {ms : List (Move ι α)} (hc : I c.shared c.threads) (h : run P.next c ms = some d) :
    I d.shared d.threads :=
  run_invariant (I := fun c => I c.shared c.threads) (fun _ _ _ hc hm => hP.next hc hm) hc h

end Preserves

lemma Preserves.and_sum {M : Type} [AddCommGroup M] {I : σ → Multiset ℓ → Prop} {total : σ → M} {share : ℓ → M}
    (hI : P.Preserves I)
    (hcall : ∀ {s i s' l}, P.call s i = some (s', l) → total s' = total s + share l)
    (hstep : ∀ {s rest l a s' l'}, I s (l ::ₘ rest) → P.step s l a = some (s', l') →
      total s' = total s + (share l' - share l))
    (hmeet : ∀ {s l k s' l' k'}, P.meet s l k = some (s', l', k') →
      total s' = total s + (share l' + share k' - (share l + share k))) :
    P.Preserves fun s ls => I s ls ∧ total s = (ls.map share).sum where
  call := by
    intro s rest i s' l h hs
    refine ⟨hI.call h.1 hs, ?_⟩
    rw [Multiset.map_cons, Multiset.sum_cons, hcall hs, h.2, add_comm]
  step := by
    intro s rest l a s' l' h hs
    refine ⟨hI.step h.1 hs, ?_⟩
    rw [hstep h.1 hs, h.2, Multiset.map_cons, Multiset.sum_cons, Multiset.map_cons, Multiset.sum_cons]
    abel
  meet := by
    intro s rest l k s' l' k' h hs
    refine ⟨hI.meet h.1 hs, ?_⟩
    rw [hmeet hs, h.2]
    simp only [Multiset.map_cons, Multiset.sum_cons]
    abel

lemma preserves_sum {M : Type} [AddCommGroup M] {total : σ → M} {share : ℓ → M}
    (hcall : ∀ {s i s' l}, P.call s i = some (s', l) → total s' = total s + share l)
    (hstep : ∀ {s l a s' l'}, P.step s l a = some (s', l') →
      total s' = total s + (share l' - share l))
    (hmeet : ∀ {s l k s' l' k'}, P.meet s l k = some (s', l', k') →
      total s' = total s + (share l' + share k' - (share l + share k))) :
    P.Preserves fun s ls => total s = (ls.map share).sum := by
  have htrue : P.Preserves fun _ _ => True := ⟨fun _ _ => trivial, fun _ _ => trivial, fun _ _ => trivial⟩
  have hsum := htrue.and_sum hcall (fun _ hs => hstep hs) hmeet
  constructor
  · exact fun h hs => (hsum.call ⟨trivial, h⟩ hs).2
  · exact fun h hs => (hsum.step ⟨trivial, h⟩ hs).2
  · exact fun h hs => (hsum.meet ⟨trivial, h⟩ hs).2

lemma preserves_forall {Q : ℓ → Prop} (hcall : ∀ {s i s' l}, P.call s i = some (s', l) → Q l)
    (hstep : ∀ {s l a s' l'}, Q l → P.step s l a = some (s', l') → Q l')
    (hmeet : ∀ {s l k s' l' k'}, Q l → Q k → P.meet s l k = some (s', l', k') → Q l' ∧ Q k') :
    P.Preserves fun _ ls => ∀ l ∈ ls, Q l where
  call := by
    intro s rest i s' l h hs
    exact Multiset.forall_mem_cons.mpr ⟨hcall hs, h⟩
  step := by
    intro s rest l a s' l' h hs
    obtain ⟨hl, hrest⟩ := Multiset.forall_mem_cons.mp h
    exact Multiset.forall_mem_cons.mpr ⟨hstep hl hs, hrest⟩
  meet := by
    intro s rest l k s' l' k' h hs
    obtain ⟨hl, hrest⟩ := Multiset.forall_mem_cons.mp h
    obtain ⟨hk, hrest⟩ := Multiset.forall_mem_cons.mp hrest
    obtain ⟨hl', hk'⟩ := hmeet hl hk hs
    exact Multiset.forall_mem_cons.mpr ⟨hl', Multiset.forall_mem_cons.mpr ⟨hk', hrest⟩⟩

end Program

end MailBaby.Lib
