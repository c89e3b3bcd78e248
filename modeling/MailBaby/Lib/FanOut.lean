import Mathlib.Data.List.Perm.Basic
import Mathlib.Tactic.Common

/-!
# One goroutine per item

Every goroutine works on its own item and then, under a lock, counts it and stores a result in the item's
slot. The goroutines take the lock in some order.
-/

namespace MailBaby.Lib

structure Tally (ρ : Type) where
  results : List (Option ρ)
  succeeded : Nat := 0
  failed : Nat := 0

structure LockOrder (n : Nat) where
  order : List Nat
  perm : order.Perm (List.range n)

def LockOrder.inOrder (n : Nat) : LockOrder n := ⟨List.range n, .refl _⟩

namespace Tally

variable {ρ : Type}

def empty (n : Nat) : Tally ρ := { results := List.replicate n none }

def store (t : Tally ρ) (i : Nat) (out : Bool × ρ) : Tally ρ where
  results := t.results.set i (some out.2)
  succeeded := if out.1 then t.succeeded + 1 else t.succeeded
  failed := if out.1 then t.failed else t.failed + 1

variable (out : Nat → Bool × ρ)

lemma foldl_store (order : List Nat) (hnodup : order.Nodup) (t : Tally ρ)
    (hbound : ∀ i ∈ order, i < t.results.length) :
    let stored := order.foldl (fun t i => t.store i (out i)) t
    (∀ i, stored.results[i]? = if i ∈ order then some (some (out i).2) else t.results[i]?) ∧
      stored.succeeded = t.succeeded + order.countP (fun i => (out i).1) ∧
      stored.failed = t.failed + order.countP (fun i => !(out i).1) := by
  induction order generalizing t with
  | nil => simp
  | cons j order ih =>
    obtain ⟨hj, hnodup⟩ := List.nodup_cons.mp hnodup
    have hlength : (t.store j (out j)).results.length = t.results.length := List.length_set
    have hlater : ∀ i ∈ order, i < (t.store j (out j)).results.length := by
      intro i hi
      rw [hlength]
      exact hbound i (List.mem_cons_of_mem j hi)
    obtain ⟨hresults, hsucceeded, hfailed⟩ := ih hnodup (t.store j (out j)) hlater
    refine ⟨fun i => ?_, ?_, ?_⟩
    · rw [List.foldl_cons, hresults i]
      by_cases hi : i ∈ order
      · rw [if_pos hi, if_pos (List.mem_cons_of_mem j hi)]
      · rw [if_neg hi]
        by_cases hij : j = i
        · subst hij
          rw [if_pos List.mem_cons_self]
          exact List.getElem?_set_self (hbound j List.mem_cons_self)
        · rw [if_neg (by simp [Ne.symm hij, hi])]
          exact List.getElem?_set_ne hij
    · rw [List.foldl_cons, hsucceeded, List.countP_cons]
      unfold store
      cases (out j).1
      · simp
      · simp
        omega
    · rw [List.foldl_cons, hfailed, List.countP_cons]
      unfold store
      cases (out j).1
      · simp
        omega
      · simp

def collected (n : Nat) : Tally ρ where
  results := (List.range n).map fun i => some (out i).2
  succeeded := (List.range n).countP fun i => (out i).1
  failed := (List.range n).countP fun i => !(out i).1

lemma foldl_store_empty {n : Nat} (sched : LockOrder n) :
    sched.order.foldl (fun t i => t.store i (out i)) (empty n) = collected out n := by
  have hmem : ∀ i, i ∈ sched.order ↔ i < n := fun i => sched.perm.mem_iff.trans List.mem_range
  have hnodup : sched.order.Nodup := sched.perm.nodup_iff.mpr List.nodup_range
  obtain ⟨hresults, hsucceeded, hfailed⟩ := foldl_store out sched.order hnodup (empty n)
    (fun i hi => by simpa [empty] using (hmem i).mp hi)
  have hall : (sched.order.foldl (fun t i => t.store i (out i)) (empty n)).results =
      (collected out n).results := by
    apply List.ext_getElem?
    intro i
    rw [hresults i]
    by_cases hi : i < n
    · rw [if_pos ((hmem i).mpr hi)]
      simp [collected, hi]
    · rw [if_neg fun h => hi ((hmem i).mp h)]
      simp [collected, empty, hi]
  rw [sched.perm.countP_eq] at hsucceeded hfailed
  cases hstored : sched.order.foldl (fun t i => t.store i (out i)) (empty n) with
  | mk results succeeded failed =>
    rw [hstored] at hall hsucceeded hfailed
    simp only [empty, Nat.zero_add] at hsucceeded hfailed
    simp only [collected] at hall ⊢
    rw [hall, hsucceeded, hfailed]

lemma succeeded_add_failed (n : Nat) : (collected out n).succeeded + (collected out n).failed = n := by
  have hsplit := List.length_eq_countP_add_countP (fun i => (out i).1) (l := List.range n)
  rw [List.length_range] at hsplit
  simpa [collected] using hsplit.symm

lemma countP_results {n : Nat} {p : ρ → Bool} (hp : ∀ i < n, p (out i).2 = !(out i).1) :
    (collected out n).results.countP (·.any p) = (collected out n).failed := by
  unfold collected
  rw [List.countP_map]
  refine List.countP_congr fun i hi => ?_
  simp [hp i (List.mem_range.mp hi)]

end Tally

section FanOut

variable {ρ : Type} {n : Nat}

/-- Goroutine `i` computes `body i`; none if the process ends. -/
def fanOut (body : Nat → Except String (Bool × ρ)) (sched : LockOrder n) : Option (Tally ρ) :=
  sched.order.foldlM (fun t i => (body i).toOption.map (t.store i)) (Tally.empty n)

lemma foldlM_store_of_ok {body : Nat → Except String (Bool × ρ)} {out : Nat → Bool × ρ} (order : List Nat)
    (h : ∀ i ∈ order, body i = .ok (out i)) (t : Tally ρ) :
    order.foldlM (fun t i => (body i).toOption.map (t.store i)) t =
      some (order.foldl (fun t i => t.store i (out i)) t) := by
  induction order generalizing t with
  | nil => rfl
  | cons j order ih =>
    rw [List.foldlM_cons, List.foldl_cons, h j List.mem_cons_self]
    exact ih (fun i hi => h i (List.mem_cons_of_mem j hi)) _

theorem fanOut_of_ok {body : Nat → Except String (Bool × ρ)} {out : Nat → Bool × ρ}
    (h : ∀ i < n, body i = .ok (out i)) (sched : LockOrder n) :
    fanOut body sched = some (Tally.collected out n) := by
  rw [fanOut, foldlM_store_of_ok sched.order fun i hi => h i (List.mem_range.mp (sched.perm.mem_iff.mp hi)),
    Tally.foldl_store_empty]

lemma foldlM_store_of_error {body : Nat → Except String (Bool × ρ)} {order : List Nat} {i : Nat}
    (hi : i ∈ order) {v : String} (h : body i = .error v) (t : Tally ρ) :
    order.foldlM (fun t i => (body i).toOption.map (t.store i)) t = none := by
  induction order generalizing t with
  | nil => cases hi
  | cons j order ih =>
    rw [List.foldlM_cons]
    cases hbody : body j with
    | error w => rfl
    | ok out =>
      have hne : i ≠ j := by
        rintro rfl
        rw [h] at hbody
        cases hbody
      exact ih (List.mem_of_ne_of_mem hne hi) _

theorem fanOut_of_error {body : Nat → Except String (Bool × ρ)} {i : Nat} (hi : i < n) {v : String}
    (h : body i = .error v) (sched : LockOrder n) : fanOut body sched = none :=
  foldlM_store_of_error (sched.perm.mem_iff.mpr (List.mem_range.mpr hi)) h _

lemma foldlM_store_congr {body body' : Nat → Except String (Bool × ρ)} {order : List Nat}
    (h : ∀ i ∈ order, body i = body' i) (t : Tally ρ) :
    order.foldlM (fun t i => (body i).toOption.map (t.store i)) t =
      order.foldlM (fun t i => (body' i).toOption.map (t.store i)) t := by
  induction order generalizing t with
  | nil => rfl
  | cons j order ih =>
    rw [List.foldlM_cons, List.foldlM_cons, h j List.mem_cons_self]
    apply Option.bind_congr
    intro stored _
    exact ih (fun i hi => h i (List.mem_cons_of_mem j hi)) stored

lemma fanOut_congr {body body' : Nat → Except String (Bool × ρ)} (h : ∀ i < n, body i = body' i)
    (sched : LockOrder n) : fanOut body sched = fanOut body' sched :=
  foldlM_store_congr (fun i hi => h i (List.mem_range.mp (sched.perm.mem_iff.mp hi))) _

theorem getElem?_results {body : Nat → Except String (Bool × ρ)} {sched : LockOrder n} {t : Tally ρ}
    (h : fanOut body sched = some t) {i : Nat} (hi : i < n) {out : Bool × ρ} (hout : body i = .ok out) :
    t.results[i]? = some (some out.2) := by
  have hall : ∀ j, ∃ o, j < n → body j = .ok o := by
    intro j
    cases hbody : body j with
    | ok o => exact ⟨o, fun _ => rfl⟩
    | error v =>
      refine ⟨out, fun hj => ?_⟩
      rw [fanOut_of_error hj hbody sched] at h
      cases h
  choose o ho using hall
  rw [fanOut_of_ok ho sched] at h
  cases h
  have heq : o i = out := Except.ok.inj ((ho i hi).symm.trans hout)
  simp [Tally.collected, hi, heq]

end FanOut

end MailBaby.Lib
