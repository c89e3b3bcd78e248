import Mathlib.Data.List.AList

/-!
# Maps filled entry by entry

A map is filled by ranging over another one. What the result holds under a name depends only on what both
maps held under it, and so not on the order of the range.
-/

namespace MailBaby.Lib

/-- The order in which a range goes over a map. -/
structure RangeOrder (ε : Type) where
  arrange : List ε → List ε
  perm : ∀ entries, (arrange entries).Perm entries

namespace RangeOrder

variable {ε : Type}

def stored : RangeOrder ε := ⟨id, fun _ => List.Perm.refl _⟩

def reversed (order : RangeOrder ε) : RangeOrder ε where
  arrange entries := (order.arrange entries).reverse
  perm entries := (List.reverse_perm _).trans (order.perm entries)

def front (p : ε → Bool) : RangeOrder ε where
  arrange entries := entries.filter p ++ entries.filter fun e => !p e
  perm entries := List.filter_append_perm p entries

lemma mem_arrange (order : RangeOrder ε) {e : ε} {entries : List ε} :
    e ∈ order.arrange entries ↔ e ∈ entries := (order.perm entries).mem_iff

lemma reversed_reversed (order : RangeOrder ε) : order.reversed.reversed = order := by
  cases order with
  | mk arrange perm => simp [reversed]

/-- A search finds the same value in every order if all entries it may find agree. -/
def Settled {β : Type} (p : ε → Bool) (value : ε → β) (entries : List ε) (choice : Option β) : Prop :=
  (∀ e ∈ entries.filter p, choice = some (value e)) ∧ (entries.filter p = [] → choice = none)

section Settled

variable {β : Type} {p q : ε → Bool} {value value' : ε → β} {entries : List ε} {choice : Option β}

lemma find?_arrange_eq_none (order : RangeOrder ε) (hnone : entries.filter p = []) :
    (order.arrange entries).find? p = none := by
  rw [List.find?_eq_none]
  intro e he
  exact List.filter_eq_nil_iff.mp hnone e (order.mem_arrange.mp he)

lemma exists_find?_arrange {e : ε} (he : e ∈ entries.filter p) :
    ∃ order : RangeOrder ε, (order.arrange entries).find? p = some e := by
  classical
  obtain ⟨hmem, hp⟩ := List.mem_filter.mp he
  refine ⟨front fun e' => decide (e' = e), ?_⟩
  have hfound : (entries.filter fun e' => decide (e' = e)).find? p = some e := by
    cases hfilter : entries.filter fun e' => decide (e' = e) with
    | nil =>
      have habsent := List.filter_eq_nil_iff.mp hfilter e hmem
      exact absurd (decide_eq_true rfl) habsent
    | cons e' rest =>
      have hhead : e' ∈ entries.filter fun e' => decide (e' = e) := hfilter ▸ List.mem_cons_self
      obtain rfl : e' = e := of_decide_eq_true (List.mem_filter.mp hhead).2
      exact List.find?_cons_of_pos hp
  change (_ ++ _ : List ε).find? p = some e
  rw [List.find?_append, hfound]
  rfl

lemma settled_iff : (∀ order : RangeOrder ε, ((order.arrange entries).find? p).map value = choice) ↔
    Settled p value entries choice := by
  constructor
  · intro hall
    constructor
    · intro e he
      obtain ⟨order, hfound⟩ := exists_find?_arrange he
      rw [← hall order, hfound]
      rfl
    · intro hnone
      rw [← hall stored, find?_arrange_eq_none stored hnone]
      rfl
  · rintro ⟨hagree, hnone⟩ order
    cases hfind : (order.arrange entries).find? p with
    | none =>
      have hempty : entries.filter p = [] := by
        rw [List.filter_eq_nil_iff]
        intro e he
        exact List.find?_eq_none.mp hfind e (order.mem_arrange.mpr he)
      exact (hnone hempty).symm
    | some e =>
      have hmem : e ∈ entries.filter p :=
        List.mem_filter.mpr ⟨order.mem_arrange.mp (List.mem_of_find?_eq_some hfind), List.find?_some hfind⟩
      exact (hagree e hmem).symm

lemma settled_reversed_iff :
    (∀ order : RangeOrder ε, ((order.reversed.arrange entries).find? p).map value = choice) ↔
      Settled p value entries choice := by
  rw [← settled_iff]
  constructor
  · intro hall order
    rw [← reversed_reversed order]
    exact hall order.reversed
  · intro hall order
    exact hall order.reversed

lemma exists_settled_iff : (∃ choice, Settled p value entries choice ∧ Settled q value' entries choice) ↔
    (entries.filter p = [] ↔ entries.filter q = []) ∧
      ∀ a ∈ entries.filter p, ∀ b ∈ entries.filter q, value a = value' b := by
  constructor
  · rintro ⟨choice, ⟨hp, hpnone⟩, ⟨hq, hqnone⟩⟩
    refine ⟨⟨?_, ?_⟩, ?_⟩
    · intro hempty
      rw [List.eq_nil_iff_forall_not_mem]
      intro b hb
      exact absurd (hq b hb) (by rw [hpnone hempty]; exact nofun)
    · intro hempty
      rw [List.eq_nil_iff_forall_not_mem]
      intro a ha
      exact absurd (hp a ha) (by rw [hqnone hempty]; exact nofun)
    · intro a ha b hb
      exact Option.some.inj ((hp a ha).symm.trans (hq b hb))
  · rintro ⟨hboth, hsame⟩
    by_cases hempty : entries.filter p = []
    · have hempty' := hboth.mp hempty
      refine ⟨none, ⟨?_, fun _ => rfl⟩, ⟨?_, fun _ => rfl⟩⟩
      · rw [hempty]
        exact nofun
      · rw [hempty']
        exact nofun
    · obtain ⟨a, ha⟩ := List.exists_mem_of_ne_nil _ hempty
      obtain ⟨b, hb⟩ := List.exists_mem_of_ne_nil _ (mt hboth.mpr hempty)
      refine ⟨some (value a), ⟨?_, fun h => absurd h hempty⟩,
        ⟨?_, fun h => absurd (hboth.mpr h) hempty⟩⟩
      · intro a' ha'
        rw [hsame a ha b hb, hsame a' ha' b hb]
      · intro b' hb'
        rw [hsame a ha b' hb']

end Settled

end RangeOrder

variable {κ : Type} [DecidableEq κ] {α β : Type}

/-- A step of the range touches the name of its entry only: it stores what `store` gives for it, or
leaves the map alone. -/
def StoresEntry (step : AList (fun _ : κ => β) → (Σ _ : κ, α) → AList fun _ : κ => β)
    (store : κ → α → Option β) : Prop :=
  ∀ acc entry name, (step acc entry).lookup name =
    if name = entry.1 then (store name entry.2).or (acc.lookup name) else acc.lookup name

theorem lookup_foldl_entries {step : AList (fun _ : κ => β) → (Σ _ : κ, α) → AList fun _ : κ => β}
    (store : κ → α → Option β) (hstep : StoresEntry step store) (source : AList fun _ : κ => α)
    (base : AList fun _ : κ => β) (name : κ) :
    (source.entries.foldl step base).lookup name =
      ((source.lookup name).bind (store name)).or (base.lookup name) := by
  obtain ⟨entries, hnodup⟩ := source
  change (entries.foldl step base).lookup name =
    ((entries.dlookup name).bind (store name)).or (base.lookup name)
  induction entries generalizing base with
  | nil => rfl
  | cons entry entries ih =>
    rw [List.nodupKeys_cons] at hnodup
    rw [List.foldl_cons, ih (step base entry) hnodup.2, hstep base entry name]
    by_cases hname : name = entry.1
    · subst hname
      -- no later entry has this name
      have hnone : entries.dlookup entry.1 = none := List.dlookup_eq_none.mpr hnodup.1
      rw [if_pos rfl, hnone, List.dlookup_cons_eq]
      rfl
    · rw [if_neg hname, List.dlookup_cons_ne _ _ hname]

lemma lookup_foldl_insert (f : α → β) (source : AList fun _ : κ => α) (base : AList fun _ : κ => β)
    (name : κ) :
    (source.entries.foldl (fun acc entry => acc.insert entry.1 (f entry.2)) base).lookup name =
      ((source.lookup name).map f).or (base.lookup name) := by
  have hstep : StoresEntry (κ := κ) (fun acc entry => acc.insert entry.1 (f entry.2))
      fun _ a => some (f a) := by
    intro acc entry name
    by_cases hname : name = entry.1
    · rw [if_pos hname, hname, AList.lookup_insert]
      rfl
    · rw [if_neg hname, AList.lookup_insert_ne hname]
  rw [lookup_foldl_entries _ hstep, Option.map_eq_bind]
  rfl

lemma lookup_foldl_insert_key {ε : Type} (key : ε → κ) (value : ε → β) (entries : List ε)
    (base : AList fun _ : κ => β) (name : κ) :
    (entries.foldl (fun acc e => acc.insert (key e) (value e)) base).lookup name =
      ((entries.reverse.find? fun e => key e = name).map value).or (base.lookup name) := by
  induction entries generalizing base with
  | nil => rfl
  | cons e entries ih =>
    rw [List.foldl_cons, ih, List.reverse_cons, List.find?_append]
    cases hlater : entries.reverse.find? fun e => key e = name with
    | some later => rfl
    | none =>
      by_cases hname : key e = name
      · have hfirst : [e].find? (fun e => decide (key e = name)) = some e :=
          List.find?_cons_of_pos (by simpa using hname)
        rw [hfirst, ← hname, AList.lookup_insert]
        rfl
      · have hne : name ≠ key e := fun h => hname h.symm
        rw [List.find?_cons_of_neg (by simpa using hname), AList.lookup_insert_ne hne]
        rfl

end MailBaby.Lib
