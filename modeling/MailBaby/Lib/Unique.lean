import Mathlib.Data.List.Nodup

/-!
# First occurrences

A loop that keeps an element unless one with the same key was kept before leaves the first element of every
key, in the order of the list.
-/

namespace MailBaby.Lib

variable {α κ : Type} [DecidableEq κ] (key : α → κ)

def firsts (l : List α) : List α := l.eraseDupsBy fun a b => key a == key b

def addUnique (kept : List α) (a : α) : List α := if key a ∈ kept.map key then kept else kept ++ [a]

variable {key} {l kept : List α} {a : α}

@[simp] lemma firsts_nil : firsts key [] = [] := rfl

lemma firsts_cons (a : α) (l : List α) :
    firsts key (a :: l) = a :: firsts key (l.filter fun b => key b ≠ key a) := by
  unfold firsts
  rw [List.eraseDupsBy_cons]
  congr 3
  funext b
  simp

theorem foldl_addUnique (l kept : List α) :
    l.foldl (addUnique key) kept = kept ++ firsts key (l.filter fun a => key a ∉ kept.map key) := by
  induction l generalizing kept with
  | nil => simp
  | cons a l ih =>
    rw [List.foldl_cons, ih, addUnique]
    by_cases hmem : key a ∈ kept.map key
    · rw [if_pos hmem, List.filter_cons_of_neg (by simpa using hmem)]
    · have hfilter : (l.filter fun b => key b ∉ (kept ++ [a]).map key) =
          (l.filter fun b => key b ∉ kept.map key).filter fun b => key b ≠ key a := by
        rw [List.filter_filter]
        apply List.filter_congr
        intro b _
        simp only [List.map_append, List.map_cons, List.map_nil, List.mem_append, List.mem_singleton, not_or,
          Bool.decide_and, Bool.and_comm]
      rw [if_neg hmem, List.filter_cons_of_pos (by simpa using hmem), firsts_cons, List.append_assoc, hfilter]
      rfl

lemma firsts_induction (key : α → κ) {motive : List α → Prop} (nil : motive [])
    (cons : ∀ a l, motive (l.filter fun b => key b ≠ key a) → motive (a :: l)) (l : List α) : motive l := by
  induction hn : l.length using Nat.strongRecOn generalizing l with
  | _ n ih =>
    cases l with
    | nil => exact nil
    | cons a l =>
      have hle := List.length_filter_le (fun b => decide (key b ≠ key a)) l
      rw [List.length_cons] at hn
      exact cons a l (ih _ (by omega) _ rfl)

lemma firsts_sublist (l : List α) : (firsts key l).Sublist l := by
  induction l using firsts_induction key with
  | nil => exact List.Sublist.refl []
  | cons a l ih =>
    rw [firsts_cons]
    exact (ih.trans List.filter_sublist).cons_cons a

lemma exists_mem_firsts (ha : a ∈ l) : ∃ b ∈ firsts key l, key b = key a := by
  induction l using firsts_induction key with
  | nil => cases ha
  | cons c l ih =>
    rw [firsts_cons]
    by_cases hkey : key a = key c
    · exact ⟨c, List.mem_cons_self, hkey.symm⟩
    · have hmem : a ∈ l := (List.mem_cons.mp ha).resolve_left fun h => hkey (congrArg key h)
      obtain ⟨b, hb, hsame⟩ := ih (List.mem_filter.mpr ⟨hmem, by simpa using hkey⟩)
      exact ⟨b, List.mem_cons_of_mem c hb, hsame⟩

lemma nodup_map_firsts (l : List α) : ((firsts key l).map key).Nodup := by
  induction l using firsts_induction key with
  | nil => exact List.nodup_nil
  | cons a l ih =>
    rw [firsts_cons, List.map_cons, List.nodup_cons]
    refine ⟨?_, ih⟩
    intro hmem
    obtain ⟨b, hb, hsame⟩ := List.mem_map.mp hmem
    have hne := (List.mem_filter.mp ((firsts_sublist _).subset hb)).2
    exact of_decide_eq_true hne hsame

end MailBaby.Lib
