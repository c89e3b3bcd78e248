import MailBaby.Lib.Threads

/-!
# Histories of threads

Which steps a thread has taken in a run, and where it stood when it took them.
-/

namespace MailBaby.Lib.Program

variable {σ ℓ ι α : Type} {P : Program σ ℓ ι α} {s : σ} {c d : System σ ℓ} {m : Move ι α}
  {ms : List (Move ι α)} {tid : Nat} {a : α} {l l' : ℓ}

lemma runs_snoc : P.Runs s (ms ++ [m]) d ↔ ∃ c, P.Runs s ms c ∧ P.next c m = some d := by
  unfold Runs
  rw [run_append, Option.bind_eq_some_iff]
  apply exists_congr
  intro c
  apply and_congr_right
  intro _
  simp [Lib.run]

theorem runs_induction {I : List (Move ι α) → System σ ℓ → Prop} (hstart : I [] { shared := s })
    (hnext : ∀ {ms c m d}, P.Runs s ms c → I ms c → P.next c m = some d → I (ms ++ [m]) d)
    (h : P.Runs s ms c) : I ms c := by
  induction ms using List.reverseRecOn generalizing c with
  | nil =>
    cases h
    exact hstart
  | append_singleton ms m ih =>
    obtain ⟨b, hb, hm⟩ := runs_snoc.mp h
    exact hnext hb (ih hb) hm

variable (P s) in
/-- In the run the thread took the step `a` where it stood at `l`. -/
def Took (ms : List (Move ι α)) (tid : Nat) (l : ℓ) (a : α) : Prop :=
  ∃ before after c, ms = before ++ .step tid a :: after ∧ P.Runs s before c ∧ c.threads[tid]? = some l

lemma not_took_nil : ¬P.Took s [] tid l a := by
  rintro ⟨before, after, c, hms, -⟩
  exact absurd hms.symm (by simp)

lemma took_snoc (h : P.Runs s ms c) :
    P.Took s (ms ++ [m]) tid l a ↔ P.Took s ms tid l a ∨ m = .step tid a ∧ c.threads[tid]? = some l := by
  constructor
  · rintro ⟨before, after, b, hms, hb, hl⟩
    -- the step is the last move, or it lies in what went before
    induction after using List.reverseRecOn with
    | nil =>
      obtain ⟨rfl, hm⟩ := List.append_inj' hms rfl
      cases Option.some.inj (hb.symm.trans h)
      exact Or.inr ⟨(List.cons.inj hm).1, hl⟩
    | append_singleton after m' _ =>
      rw [← List.cons_append, ← List.append_assoc] at hms
      obtain ⟨rfl, -⟩ := List.append_inj' hms rfl
      exact Or.inl ⟨before, after, b, rfl, hb, hl⟩
  · rintro (⟨before, after, b, rfl, hb, hl⟩ | ⟨rfl, hl⟩)
    · exact ⟨before, after ++ [m], b, by simp, hb, hl⟩
    · exact ⟨ms, [], c, rfl, h, hl⟩

lemma Took.mem (h : P.Took s ms tid l a) : .step tid a ∈ ms := by
  obtain ⟨before, after, c, rfl, -⟩ := h
  simp

lemma took_of_mem (h : P.Runs s ms c) (hm : .step tid a ∈ ms) :
    ∃ l b r, P.Took s ms tid l a ∧ P.step b l a = some r := by
  obtain ⟨before, after, rfl⟩ := List.append_of_mem hm
  unfold Runs at h
  rw [run_append, Option.bind_eq_some_iff] at h
  obtain ⟨b, hb, hrest⟩ := h
  obtain ⟨b', hstep, -⟩ := run_cons hrest
  obtain ⟨l, hl, hstep⟩ := Option.bind_eq_some_iff.mp hstep
  obtain ⟨r, hr, -⟩ := Option.map_eq_some_iff.mp hstep
  exact ⟨l, b.shared, r, ⟨before, after, b, rfl, hb, hl⟩, hr⟩

lemma thread_cases (h : P.next c m = some d) (hl : d.threads[tid]? = some l') :
    (c.threads[tid]? = some l' ∧ ∀ a, m ≠ .step tid a) ∨
    (c.threads[tid]? = none ∧ ∃ i, m = .call i ∧ P.call c.shared i = some (d.shared, l')) ∨
    (∃ l a, m = .step tid a ∧ c.threads[tid]? = some l ∧ P.step c.shared l a = some (d.shared, l')) ∨
    (∃ i j l k l₁ k₁, m = .meet i j ∧ P.meet c.shared l k = some (d.shared, l₁, k₁) ∧
      (c.threads[tid]? = some l ∧ l' = l₁ ∨ c.threads[tid]? = some k ∧ l' = k₁)) := by
  cases m with
  | call i =>
    obtain ⟨⟨s, l⟩, hcall, rfl⟩ := Option.map_eq_some_iff.mp h
    change (c.threads ++ [l])[tid]? = some l' at hl
    rcases Nat.lt_or_ge tid c.threads.length with hlt | hge
    · rw [List.getElem?_append_left hlt] at hl
      exact Or.inl ⟨hl, fun a => by simp⟩
    · rw [List.getElem?_append_right hge] at hl
      obtain ⟨-, rfl⟩ := List.getElem?_eq_some_iff.mp hl
      refine Or.inr (Or.inl ⟨List.getElem?_eq_none_iff.mpr hge, i, rfl, ?_⟩)
      rw [List.getElem_singleton]
      exact hcall
  | step tid' a =>
    obtain ⟨l, hl', h⟩ := Option.bind_eq_some_iff.mp h
    obtain ⟨⟨s, k⟩, hstep, rfl⟩ := Option.map_eq_some_iff.mp h
    change (c.threads.set tid' k)[tid]? = some l' at hl
    by_cases htid : tid' = tid
    · cases htid
      obtain ⟨hlt, -⟩ := List.getElem?_eq_some_iff.mp hl'
      rw [List.getElem?_set_self hlt] at hl
      cases hl
      exact Or.inr (Or.inr (Or.inl ⟨l, a, rfl, hl', hstep⟩))
    · rw [List.getElem?_set_ne htid] at hl
      exact Or.inl ⟨hl, fun b hb => htid (Move.step.inj hb).1⟩
  | meet i j =>
    simp only [next] at h
    split_ifs at h with hij
    obtain ⟨l, hi, h⟩ := Option.bind_eq_some_iff.mp h
    obtain ⟨k, hj, h⟩ := Option.bind_eq_some_iff.mp h
    obtain ⟨⟨s, l₁, k₁⟩, hmeet, rfl⟩ := Option.map_eq_some_iff.mp h
    change ((c.threads.set i l₁).set j k₁)[tid]? = some l' at hl
    by_cases htj : j = tid
    · cases htj
      obtain ⟨hlt, -⟩ := List.getElem?_eq_some_iff.mp hj
      rw [List.getElem?_set_self (by rwa [List.length_set])] at hl
      cases hl
      exact Or.inr (Or.inr (Or.inr ⟨i, tid, l, k, l₁, _, rfl, hmeet, Or.inr ⟨hj, rfl⟩⟩))
    · rw [List.getElem?_set_ne htj] at hl
      by_cases hti : i = tid
      · cases hti
        obtain ⟨hlt, -⟩ := List.getElem?_eq_some_iff.mp hi
        rw [List.getElem?_set_self hlt] at hl
        cases hl
        exact Or.inr (Or.inr (Or.inr ⟨tid, j, l, k, _, k₁, rfl, hmeet, Or.inl ⟨hi, rfl⟩⟩))
      · rw [List.getElem?_set_ne hti] at hl
        exact Or.inl ⟨hl, fun b => by simp⟩

lemma length_le_of_next (h : P.next c m = some d) : c.threads.length ≤ d.threads.length := by
  cases m with
  | call i =>
    obtain ⟨r, -, rfl⟩ := Option.map_eq_some_iff.mp h
    simp
  | step tid a =>
    obtain ⟨l, -, h⟩ := Option.bind_eq_some_iff.mp h
    obtain ⟨r, -, rfl⟩ := Option.map_eq_some_iff.mp h
    simp
  | meet i j =>
    simp only [next] at h
    split_ifs at h
    obtain ⟨l, -, h⟩ := Option.bind_eq_some_iff.mp h
    obtain ⟨k, -, h⟩ := Option.bind_eq_some_iff.mp h
    obtain ⟨r, -, rfl⟩ := Option.map_eq_some_iff.mp h
    simp

lemma Took.lt (ht : P.Took s ms tid l a) (h : P.Runs s ms c) : tid < c.threads.length := by
  revert ht
  apply runs_induction (I := fun ms c => P.Took s ms tid l a → tid < c.threads.length) _ _ h
  · intro ht
    exact absurd ht not_took_nil
  · intro ms c m d hrun ih hnext ht
    apply lt_of_lt_of_le _ (length_le_of_next hnext)
    rcases (took_snoc hrun).mp ht with ht | ⟨-, hl⟩
    · exact ih ht
    · exact (List.getElem?_eq_some_iff.mp hl).1

theorem thread_history {J : (ℓ → α → Prop) → ℓ → Prop}
    (hcall : ∀ {s i s' l}, P.call s i = some (s', l) → J (fun _ _ => False) l)
    (hstep : ∀ {H s l a s' l'}, J H l → P.step s l a = some (s', l') →
      J (fun k b => H k b ∨ k = l ∧ b = a) l')
    (hmeet : ∀ {H s l k s' l' k'}, P.meet s l k = some (s', l', k') → (J H l → J H l') ∧ (J H k → J H k'))
    (h : P.Runs s ms c) (hl : c.threads[tid]? = some l) : J (P.Took s ms tid) l := by
  apply runs_induction (I := fun ms c => ∀ l, c.threads[tid]? = some l → J (P.Took s ms tid) l) _ _ h l hl
  · intro l hl
    exact absurd hl (by simp)
  · intro ms c m d hrun ih hnext l hl
    have hkeep (hm : ∀ a, m ≠ .step tid a) : P.Took s (ms ++ [m]) tid = P.Took s ms tid := by
      funext k b
      apply propext
      rw [took_snoc hrun]
      exact or_iff_left fun ht => hm b ht.1
    rcases thread_cases hnext hl with ⟨hc, hm⟩ | ⟨hnew, i, rfl, hcall'⟩ | ⟨k, a, rfl, hk, hstep'⟩ |
      ⟨i, j, k, k', l₁, k₁, rfl, hmeet', ⟨hk, rfl⟩ | ⟨hk, rfl⟩⟩
    · rw [hkeep hm]
      exact ih _ hc
    · -- a new thread has no history
      have hnone : P.Took s ms tid = fun _ _ => False := by
        funext k b
        apply propext
        apply iff_false_intro
        intro ht
        exact absurd (ht.lt hrun) (not_lt.mpr (List.getElem?_eq_none_iff.mp hnew))
      rw [hkeep (by simp), hnone]
      exact hcall hcall'
    · have hmore : P.Took s (ms ++ [.step tid a]) tid = fun l b => P.Took s ms tid l b ∨ l = k ∧ b = a := by
        funext l b
        apply propext
        rw [took_snoc hrun, hk]
        apply or_congr_right
        constructor
        · rintro ⟨hm, hl⟩
          exact ⟨(Option.some.inj hl).symm, (Move.step.inj hm).2.symm⟩
        · rintro ⟨rfl, rfl⟩
          exact ⟨rfl, rfl⟩
      rw [hmore]
      exact hstep (ih _ hk) hstep'
    · rw [hkeep (by simp)]
      exact (hmeet hmeet').1 (ih _ hk)
    · rw [hkeep (by simp)]
      exact (hmeet hmeet').2 (ih _ hk)

end MailBaby.Lib.Program
