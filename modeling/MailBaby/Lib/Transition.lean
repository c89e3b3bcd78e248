import Mathlib.Tactic.Common

/-!
# Runs of a transition function

A system is a partial transition function: `step s a = none` when action `a` is not enabled in `s`.
-/

namespace MailBaby.Lib

variable {σ α : Type} (step : σ → α → Option σ)

def run : σ → List α → Option σ
  | s, [] => some s
  | s, a :: as => (step s a).bind fun t => run t as

/-- Every action of the run meets `ok` in the state it is taken in. -/
def Along (ok : σ → α → Prop) : σ → List α → Prop
  | _, [] => True
  | s, a :: as => ok s a ∧ ∀ t, step s a = some t → Along ok t as

instance Along.instDecidable (ok : σ → α → Prop) [∀ s a, Decidable (ok s a)] :
    ∀ s as, Decidable (Along step ok s as)
  | _, [] => isTrue trivial
  | s, a :: as =>
    have : ∀ t, Decidable (Along step ok t as) := fun t => Along.instDecidable ok t as
    inferInstanceAs (Decidable (ok s a ∧ ∀ t ∈ step s a, Along step ok t as))

def Reaches (s t : σ) : Prop := ∃ as, run step s as = some t

variable {step} {s t u : σ} {a : α} {as bs : List α}

lemma run_cons (h : run step s (a :: as) = some u) :
    ∃ t, step s a = some t ∧ run step t as = some u := by
  simpa only [run, Option.bind_eq_some_iff] using h

lemma run_append : run step s (as ++ bs) = (run step s as).bind fun t => run step t bs := by
  induction as generalizing s with
  | nil => rfl
  | cons a as ih =>
    simp only [List.cons_append, run]
    cases step s a with
    | none => rfl
    | some t => exact ih

lemma run_append_of (h : run step s as = some t) (h' : run step t bs = some u) :
    run step s (as ++ bs) = some u := by
  rw [run_append, h]
  exact h'

lemma Reaches.refl (s : σ) : Reaches step s s := ⟨[], rfl⟩

lemma Reaches.trans (h : Reaches step s t) (h' : Reaches step t u) : Reaches step s u := by
  obtain ⟨as, has⟩ := h
  obtain ⟨bs, hbs⟩ := h'
  exact ⟨as ++ bs, run_append_of has hbs⟩

lemma Reaches.single (h : step s a = some t) : Reaches step s t :=
  ⟨[a], by simp [run, h]⟩

lemma along_of_forall {ok : α → Prop} (h : ∀ a ∈ as, ok a) : Along step (fun _ a => ok a) s as := by
  induction as generalizing s with
  | nil => trivial
  | cons a as ih =>
    exact ⟨h a List.mem_cons_self, fun t _ => ih fun b hb => h b (List.mem_cons_of_mem a hb)⟩

lemma Along.and {ok ok' : σ → α → Prop} (h : Along step ok s as) (h' : Along step ok' s as) :
    Along step (fun s a => ok s a ∧ ok' s a) s as := by
  induction as generalizing s with
  | nil => trivial
  | cons a as ih => exact ⟨⟨h.1, h'.1⟩, fun t ht => ih (h.2 t ht) (h'.2 t ht)⟩

theorem run_invariant {I : σ → Prop} (hstep : ∀ s a t, I s → step s a = some t → I t)
    (hs : I s) (h : run step s as = some t) : I t := by
  induction as generalizing s with
  | nil =>
    cases h
    exact hs
  | cons a as ih =>
    obtain ⟨r, hr, hrun⟩ := run_cons h
    exact ih (hstep s a r hs hr) hrun

theorem run_invariant_along {I : σ → Prop} {ok : σ → α → Prop}
    (hstep : ∀ s a t, I s → ok s a → step s a = some t → I t)
    (hs : I s) (hok : Along step ok s as) (h : run step s as = some t) : I t := by
  induction as generalizing s with
  | nil =>
    cases h
    exact hs
  | cons a as ih =>
    obtain ⟨r, hr, hrun⟩ := run_cons h
    exact ih (hstep s a r hs hok.1 hr) (hok.2 r hr) hrun

theorem run_iff_along {I P : σ → Prop} {ok : σ → α → Prop}
    (hinv : ∀ s a t, I s → step s a = some t → I t)
    (hkeep : ∀ s a t, I s → P s → ok s a → step s a = some t → P t)
    (hbreak : ∀ s a t, I s → ¬ok s a → step s a = some t → ¬P t)
    (hlost : ∀ s a t, I s → ¬P s → step s a = some t → ¬P t)
    (hI : I s) (hs : P s) (h : run step s as = some t) : P t ↔ Along step ok s as := by
  have hstay : ∀ {bs r}, I r → ¬P r → run step r bs = some t → ¬P t := by
    intro bs r hIr hr hrun
    exact (run_invariant (I := fun r => I r ∧ ¬P r)
      (fun s a t hs ht => ⟨hinv s a t hs.1 ht, hlost s a t hs.1 hs.2 ht⟩) ⟨hIr, hr⟩ hrun).2
  induction as generalizing s with
  | nil =>
    cases h
    exact ⟨fun _ => trivial, fun _ => hs⟩
  | cons a as ih =>
    obtain ⟨r, hr, hrun⟩ := run_cons h
    have hIr := hinv s a r hI hr
    by_cases hok : ok s a
    · refine (ih hIr (hkeep s a r hI hs hok hr) hrun).trans
        ⟨fun hal => ⟨hok, fun t' ht' => ?_⟩, fun hal => hal.2 r hr⟩
      cases hr.symm.trans ht'
      exact hal
    · refine ⟨fun ht => absurd ht (hstay hIr (hbreak s a r hI hok hr) hrun), fun hal => ?_⟩
      exact absurd hal.1 hok

end MailBaby.Lib
