import Mathlib.Algebra.BigOperators.Group.Multiset.Basic
import Mathlib.Data.Multiset.UnionInter
import Mathlib.Tactic.Common

/-!
# The account of a queue

Items are placed on a queue and handed out in order. A sender places its item and has it counted in a later
step; what was handed out may be put back under a fresh name, which counts as a return.
-/

namespace MailBaby.Lib

structure Ledger where
  placed : List Nat := []
  handed : List Nat := []
  buffered : List Nat := []
  counted : Int := 0
  returns : Nat := 0
  fresh : Nat := 0

/-- A sender's item: whether it has been placed, and whether it is yet to be counted. -/
structure Mark where
  item : Nat
  placed : Bool := false
  owed : Bool := false

namespace Ledger

def reserve (g : Ledger) : Ledger := { g with fresh := g.fresh + 1 }

def place (g : Ledger) (r : Nat) : Ledger :=
  { g with placed := g.placed ++ [r], buffered := g.buffered ++ [r] }

def count (g : Ledger) : Ledger := { g with counted := g.counted + 1 }

def handOut (g : Ledger) (r : Nat) (rest : List Nat) : Ledger :=
  { g with handed := g.handed ++ [r], buffered := rest }

def putBack (g : Ledger) : Ledger :=
  { g.place g.fresh with returns := g.returns + 1, fresh := g.fresh + 1 }

/-- What a step does to the account, and to the mark of the one who takes it. -/
inductive Step (g : Ledger) : Option Mark → Ledger → Option Mark → Prop
  | keep (m : Option Mark) : Step g m g m
  | place (r : Nat) : Step g (some ⟨r, false, false⟩) (g.place r) (some ⟨r, true, true⟩)
  | count (r : Nat) : Step g (some ⟨r, true, true⟩) g.count (some ⟨r, true, false⟩)
  | handOut (r : Nat) (rest : List Nat) (hbuffered : g.buffered = r :: rest) :
      Step g none (g.handOut r rest) none
  | putBack : Step g none g.putBack none

structure Balanced (g : Ledger) (marks : Multiset Mark) : Prop where
  order : g.placed = g.handed ++ g.buffered
  nodup : g.placed.Nodup
  placed_lt : ∀ r ∈ g.placed, r < g.fresh
  items : (marks.map Mark.item).Nodup
  item_lt : ∀ m ∈ marks, m.item < g.fresh
  placed_iff : ∀ m ∈ marks, m.item ∈ g.placed ↔ m.placed = true
  total : g.counted + g.returns + (marks.map fun m => (m.owed.toNat : Int)).sum =
    g.handed.length + g.buffered.length

variable {g : Ledger} {marks : Multiset Mark} {r : Nat}

lemma balanced_nil : Balanced {} 0 := by
  constructor <;> simp

lemma Balanced.reserve (h : g.Balanced marks) : g.reserve.Balanced (⟨g.fresh, false, false⟩ ::ₘ marks) := by
  have hnew : g.fresh ∉ g.placed := fun hmem => Nat.lt_irrefl _ (h.placed_lt _ hmem)
  constructor
  case order => exact h.order
  case nodup => exact h.nodup
  case placed_lt => exact fun r hr => Nat.lt_succ_of_lt (h.placed_lt r hr)
  case items =>
    rw [Multiset.map_cons, Multiset.nodup_cons]
    refine ⟨fun hmem => ?_, h.items⟩
    obtain ⟨m, hm, heq⟩ := Multiset.mem_map.mp hmem
    exact Nat.lt_irrefl _ (heq ▸ h.item_lt m hm)
  case item_lt =>
    rw [Multiset.forall_mem_cons]
    exact ⟨Nat.lt_succ_self _, fun m hm => Nat.lt_succ_of_lt (h.item_lt m hm)⟩
  case placed_iff =>
    rw [Multiset.forall_mem_cons]
    exact ⟨⟨fun hmem => absurd hmem hnew, fun hf => absurd hf Bool.false_ne_true⟩, h.placed_iff⟩
  case total =>
    have htotal := h.total
    rw [Multiset.map_cons, Multiset.sum_cons]
    simp only [Ledger.reserve, Bool.toNat_false]
    omega

lemma Balanced.place (h : g.Balanced (⟨r, false, false⟩ ::ₘ marks)) :
    (g.place r).Balanced (⟨r, true, true⟩ ::ₘ marks) := by
  obtain ⟨hr, hlt⟩ := Multiset.forall_mem_cons.mp h.item_lt
  obtain ⟨hnot, hiff⟩ := Multiset.forall_mem_cons.mp h.placed_iff
  have hnew : r ∉ g.placed := fun hmem => absurd (hnot.mp hmem) Bool.false_ne_true
  have hothers : ∀ m ∈ marks, m.item ≠ r := by
    intro m hm heq
    have hnodup := h.items
    rw [Multiset.map_cons, Multiset.nodup_cons] at hnodup
    exact hnodup.1 (Multiset.mem_map.mpr ⟨m, hm, heq⟩)
  constructor
  case order =>
    change g.placed ++ [r] = g.handed ++ (g.buffered ++ [r])
    rw [h.order, List.append_assoc]
  case nodup => exact List.nodup_append.mpr ⟨h.nodup, List.nodup_singleton r, by grind⟩
  case placed_lt =>
    intro q hq
    rcases List.mem_append.mp hq with hq | hq
    · exact h.placed_lt q hq
    · exact List.mem_singleton.mp hq ▸ hr
  case items => simpa only [Multiset.map_cons] using h.items
  case item_lt => exact Multiset.forall_mem_cons.mpr ⟨hr, hlt⟩
  case placed_iff =>
    rw [Multiset.forall_mem_cons]
    refine ⟨⟨fun _ => rfl, fun _ => List.mem_append_right _ (List.mem_singleton_self r)⟩, fun m hm => ?_⟩
    change m.item ∈ g.placed ++ [r] ↔ _
    rw [List.mem_append, List.mem_singleton, or_iff_left (hothers m hm)]
    exact hiff m hm
  case total =>
    have htotal := h.total
    rw [Multiset.map_cons, Multiset.sum_cons] at htotal ⊢
    simp only [Ledger.place, List.length_append, List.length_singleton, Bool.toNat_true,
      Bool.toNat_false] at htotal ⊢
    omega

lemma Balanced.count (h : g.Balanced (⟨r, true, true⟩ ::ₘ marks)) :
    g.count.Balanced (⟨r, true, false⟩ ::ₘ marks) := by
  constructor
  case order => exact h.order
  case nodup => exact h.nodup
  case placed_lt => exact h.placed_lt
  case items => simpa only [Multiset.map_cons] using h.items
  case item_lt => exact Multiset.forall_mem_cons.mpr (Multiset.forall_mem_cons.mp h.item_lt)
  case placed_iff => exact Multiset.forall_mem_cons.mpr (Multiset.forall_mem_cons.mp h.placed_iff)
  case total =>
    have htotal := h.total
    rw [Multiset.map_cons, Multiset.sum_cons] at htotal ⊢
    simp only [Ledger.count, Bool.toNat_true, Bool.toNat_false] at htotal ⊢
    omega

lemma Balanced.handOut {rest : List Nat} (h : g.Balanced marks) (hbuffered : g.buffered = r :: rest) :
    (g.handOut r rest).Balanced marks := by
  constructor
  case order =>
    change g.placed = g.handed ++ [r] ++ rest
    rw [h.order, hbuffered, List.append_cons]
  case nodup => exact h.nodup
  case placed_lt => exact h.placed_lt
  case items => exact h.items
  case item_lt => exact h.item_lt
  case placed_iff => exact h.placed_iff
  case total =>
    have htotal := h.total
    rw [hbuffered] at htotal
    simp only [Ledger.handOut, List.length_append, List.length_cons, List.length_nil] at htotal ⊢
    omega

lemma Balanced.putBack (h : g.Balanced marks) : g.putBack.Balanced marks := by
  -- the fresh name is placed by a sender of its own, of which nothing is left
  have hplace := h.reserve.place
  constructor
  case order => exact hplace.order
  case nodup => exact hplace.nodup
  case placed_lt => exact hplace.placed_lt
  case items => exact h.items
  case item_lt => exact (Multiset.forall_mem_cons.mp hplace.item_lt).2
  case placed_iff => exact (Multiset.forall_mem_cons.mp hplace.placed_iff).2
  case total =>
    have htotal := h.total
    simp only [Ledger.putBack, Ledger.place, List.length_append, List.length_singleton] at htotal ⊢
    omega

def withMark (m : Option Mark) (marks : Multiset Mark) : Multiset Mark :=
  m.elim marks fun m => m ::ₘ marks

lemma Balanced.step {m m' : Option Mark} {g' : Ledger} (h : g.Balanced (withMark m marks))
    (hstep : g.Step m g' m') : g'.Balanced (withMark m' marks) := by
  cases hstep with
  | keep => exact h
  | place r => exact h.place
  | count r => exact h.count
  | handOut r rest hbuffered => exact h.handOut hbuffered
  | putBack => exact h.putBack

lemma Step.length_handed_le {m m' : Option Mark} {g' : Ledger} (h : g.Step m g' m') :
    g.handed.length ≤ g'.handed.length := by
  cases h with
  | handOut r rest hbuffered =>
    change g.handed.length ≤ (g.handed ++ [r]).length
    simp
  | _ => exact Nat.le_refl _

lemma Balanced.total_of_paid (h : g.Balanced marks) (hpaid : ∀ m ∈ marks, m.owed = false) :
    g.counted + g.returns = g.handed.length + g.buffered.length := by
  have hsum : (marks.map fun m => (m.owed.toNat : Int)).sum = 0 := by
    apply Multiset.sum_eq_zero
    intro n hn
    obtain ⟨m, hm, rfl⟩ := Multiset.mem_map.mp hn
    rw [hpaid m hm]
    rfl
  have htotal := h.total
  rw [hsum] at htotal
  omega

end Ledger

end MailBaby.Lib
