import MailBaby.Lib.Ledger
import MailBaby.Proofs.TrafficSteps

/-!
# Conservation of messages

The queue keeps the account of the ledger: each step is one of the ledger's steps, or none of its business.
A call of `Publish` carries a mark of where it stands between its placement and its count.
-/

namespace MailBaby.MemoryTraffic

open Lib

def State.ledger (s : State) : Lib.Ledger where
  placed := s.placements
  handed := s.handouts.map Handout.ref
  buffered := s.ch.buffer.map Prod.fst
  counted := s.totalPublished
  returns := s.requeues
  fresh := s.nextRef

/-! ### Marks -/

def Item.mark (ref : Nat) : Item → Mark
  | counting => ⟨ref, true, true⟩
  | _ => ⟨ref, false, false⟩

def Outcome.mark (ref : Nat) (r : Outcome) : Mark := ⟨ref, r.isNil, false⟩

def Progress.mark (ref : Nat) : Progress → Mark
  | continues i => i.mark ref
  | ends r => r.mark ref

def Caller.mark (ref : Nat) : Caller → Mark
  | publishing i => i.mark ref
  | returning r => r.mark ref
  | returned r => r.mark ref
  | _ => ⟨ref, false, false⟩

def Delayed.mark (ref : Nat) : Delayed → Mark
  | publishing i => i.mark ref
  | leaving r => r.mark ref
  | ended r => r.mark ref
  | _ => ⟨ref, false, false⟩

def Publish.mark (p : Publish) : Mark :=
  if p.delayed = .absent then p.caller.mark p.ref else p.delayed.mark p.ref

def Thread.mark : Thread → Option Mark
  | publish p => some p.mark
  | _ => none

variable {name : String} {s s' : State} {p p' : Publish}

lemma Publish.mark_of_absent (h : p.delayed = .absent) : p.mark = p.caller.mark p.ref := if_pos h

lemma Publish.mark_of_spawned (h : p.delayed ≠ .absent) : p.mark = p.delayed.mark p.ref := if_neg h

@[simp] lemma Publish.mark_item (p : Publish) : p.mark.item = p.ref := by
  unfold Publish.mark
  split
  · cases p.caller with
    | publishing i => cases i <;> rfl
    | _ => rfl
  · cases p.delayed with
    | publishing i => cases i <;> rfl
    | _ => rfl

/-! ### Steps of the account -/

lemma ItemStep.ledger {i : Item} {r : Progress} (h : ItemStep s p i s' r) :
    s.ledger.Step (some (i.mark p.ref)) s'.ledger (some (r.mark p.ref)) := by
  cases h with
  | refused err herr => exact .keep _
  | passed hlive => exact .keep _
  | placed hopen hroom =>
    have hplace : (s.place p).ledger = s.ledger.place p.ref := by
      simp [State.ledger, State.place, Lib.Ledger.place]
    rw [hplace]
    exact .place p.ref
  | failed hclosed => exact .keep _
  | counted => exact .count p.ref

lemma Publish.mark_goroutine {d : Delayed} (hd : d ≠ .absent) :
    Publish.mark { p with delayed := d } = d.mark p.ref :=
  Publish.mark_of_spawned hd

lemma PublishStep.ledger {a : Action} (hp : p.Sound name) (h : PublishStep name s p a s' p') :
    s.ledger.Step (some p.mark) s'.ledger (some p'.mark) := by
  cases h with
  | invalid hcaller | refused m hcaller | admitted m hcaller | started m hcaller =>
    have habsent := hp.absent (by rw [hcaller]; rfl)
    rw [Publish.mark_of_absent habsent, Publish.mark_of_absent (by exact habsent), hcaller]
    exact .keep _
  | registered m hcaller =>
    have habsent := hp.absent (by rw [hcaller]; rfl)
    rw [Publish.mark_of_absent habsent, Publish.mark_of_spawned (by exact Delayed.noConfusion), hcaller]
    exact .keep _
  | caller i r hcaller s' hitem =>
    have habsent := hp.absent (by rw [hcaller]; rfl)
    have hmark : (p.callerAt r).mark = r.mark p.ref := by
      cases r with
      | _ => exact Publish.mark_of_absent habsent
    rw [Publish.mark_of_absent habsent, hcaller, hmark]
    exact hitem.ledger
  | returned r hcaller =>
    have hmark : Publish.mark { p with ctx.cancelled := p.ctx.deadline.isSome, caller := .returned r } = p.mark := by
      simp only [Publish.mark, hcaller]
      rfl
    rw [hmark]
    exact .keep _
  | timer hdelayed | fired fires hdelayed | left r hdelayed | abandoned fires err hdelayed =>
    rw [Publish.mark_of_spawned (by rw [hdelayed]; exact Delayed.noConfusion), hdelayed,
      Publish.mark_goroutine Delayed.noConfusion]
    exact .keep _
  | goroutine i r hdelayed s' hitem =>
    have hmark : (p.goroutineAt r).mark = r.mark p.ref := by
      cases r with
      | _ => exact Publish.mark_goroutine Delayed.noConfusion
    rw [Publish.mark_of_spawned (by rw [hdelayed]; exact Delayed.noConfusion), hdelayed, hmark]
    exact hitem.ledger
  | cancelled => exact .keep _

lemma Thread.mark_of_serves {l : Thread} (h : l.serves = true) : l.mark = none := by
  cases l with
  | publish p => cases h
  | _ => rfl

lemma ServiceStep.ledger {l l' : Thread} (h : ServiceStep s l s' l') : s.ledger.Step none s'.ledger none := by
  cases h with
  | took entry rest l' hbuffer hheld =>
    have hhand : (s.handOut entry { s.ch with buffer := rest }).ledger =
        s.ledger.handOut entry.1 (rest.map Prod.fst) := by
      simp [State.ledger, State.handOut, Lib.Ledger.handOut]
    have hbuffered : s.ledger.buffered = entry.1 :: rest.map Prod.fst := by
      change s.ch.buffer.map Prod.fst = _
      rw [hbuffer, List.map_cons]
    rw [hhand]
    exact .handOut entry.1 _ hbuffered
  | requeued m l' hopen hroom hheld =>
    have hput : (s.requeue m).ledger = s.ledger.putBack := by
      simp [State.ledger, State.requeue, Lib.Ledger.putBack, Lib.Ledger.place]
    rw [hput]
    exact .putBack
  | kept handouts inFlight l' hrefs hheld =>
    have hsame : { s with handouts := handouts, inFlight := inFlight }.ledger = s.ledger := by
      simp [State.ledger, hrefs]
    rw [hsame]
    exact .keep none

lemma CloseStep.ledger {c c' : Close} {a : Action} (h : CloseStep s c a s' c') : s'.ledger = s.ledger := by
  cases h with
  | _ => rfl

lemma ThreadStep.ledger {l l' : Thread} {a : Action} (hl : l.Sound name) (h : ThreadStep name s l a s' l') :
    s.ledger.Step l.mark s'.ledger l'.mark := by
  cases h with
  | tick l d => exact .keep _
  | publish p p' a s' h => exact h.ledger hl
  | serve l l' a s' hserves hserves' h =>
    rw [Thread.mark_of_serves hserves, Thread.mark_of_serves hserves']
    exact h.ledger
  | close c c' a s' h =>
    rw [h.ledger]
    exact .keep none

/-! ### The account of a run -/

def marks (ls : Multiset Thread) : Multiset Mark := ls.filterMap Thread.mark

lemma marks_cons (l : Thread) (ls : Multiset Thread) : marks (l ::ₘ ls) = Lib.Ledger.withMark l.mark (marks ls) := by
  unfold marks
  cases hl : l.mark with
  | none => exact Multiset.filterMap_cons_none l ls hl
  | some m => exact Multiset.filterMap_cons_some Thread.mark l ls hl

structure Accounted (name : String) (s : State) (ls : Multiset Thread) : Prop where
  sound : ∀ l ∈ ls, l.Sound name
  balanced : s.ledger.Balanced (marks ls)

lemma CallStep.balanced {i : Request} {l : Thread} {ls : Multiset Thread} (h : CallStep s i s' l)
    (hs : s.ledger.Balanced (marks ls)) : s'.ledger.Balanced (marks (l ::ₘ ls)) := by
  rw [marks_cons]
  cases h with
  | publish msg opts trace => exact hs.reserve
  | serve i l hl hheld =>
    rw [Thread.mark_of_serves hl]
    exact hs
  | close => exact hs

lemma preserves_accounted : (program name).Preserves (Accounted name) where
  call h hcall := ⟨preserves_sound.call h.sound hcall, (callStep_of_request hcall).balanced h.balanced⟩
  step := by
    intro s rest l a s' l' h hstep
    refine ⟨preserves_sound.step h.sound hstep, ?_⟩
    have hbalanced := h.balanced
    rw [marks_cons] at hbalanced ⊢
    exact hbalanced.step ((threadStep_of_step hstep).ledger (h.sound l (Multiset.mem_cons_self l rest)))
  meet _ hmeet := by cases hmeet

/-! ### Who has what -/

def holdings (ls : Multiset Thread) : Multiset Nat := ls.filterMap Thread.held

def Takes (s s' : State) (l l' : Thread) : Prop :=
  l'.held = l.held ∨ l'.held = none ∨
    s.handouts.length < s'.handouts.length ∧ l'.held = some s.handouts.length

lemma ThreadStep.takes {l l' : Thread} {a : Action} (h : ThreadStep name s l a s' l') : Takes s s' l l' := by
  cases h with
  | tick l d => exact .inl rfl
  | publish p p' a s' h => exact .inl rfl
  | serve l l' a s' hserves hserves' h =>
    cases h with
    | took entry rest l' hbuffer hheld => exact .inr (.inr ⟨by simp [State.handOut], hheld⟩)
    | requeued m l' hopen hroom hheld => exact .inl hheld
    | kept handouts inFlight l' hrefs hheld => exact hheld.imp_right .inl
  | close c c' a s' h => exact .inl rfl

lemma holdings_cons_none {l : Thread} {ls : Multiset Thread} (h : l.held = none) :
    holdings (l ::ₘ ls) = holdings ls :=
  Multiset.filterMap_cons_none l ls h

lemma holdings_cons_some {l : Thread} {ls : Multiset Thread} {i : Nat} (h : l.held = some i) :
    holdings (l ::ₘ ls) = i ::ₘ holdings ls :=
  Multiset.filterMap_cons_some Thread.held l ls h

structure Exclusive (s : State) (ls : Multiset Thread) : Prop where
  nodup : (holdings ls).Nodup
  lt : ∀ i ∈ holdings ls, i < s.handouts.length

lemma Exclusive.mono {ls : Multiset Thread} (h : Exclusive s ls)
    (hle : s.handouts.length ≤ s'.handouts.length) : Exclusive s' ls :=
  ⟨h.nodup, fun i hi => Nat.lt_of_lt_of_le (h.lt i hi) hle⟩

lemma Exclusive.congr {ls ls' : Multiset Thread} (h : Exclusive s ls) (heq : holdings ls' = holdings ls) :
    Exclusive s ls' :=
  ⟨heq ▸ h.nodup, heq ▸ h.lt⟩

lemma Exclusive.of_cons {l : Thread} {ls : Multiset Thread} (h : Exclusive s (l ::ₘ ls)) : Exclusive s ls := by
  cases hl : l.held with
  | none => exact h.congr (holdings_cons_none hl).symm
  | some i =>
    obtain ⟨hnodup, hlt⟩ := h
    rw [holdings_cons_some hl] at hnodup hlt
    exact ⟨(Multiset.nodup_cons.mp hnodup).2, (Multiset.forall_mem_cons.mp hlt).2⟩

lemma Exclusive.cons {l : Thread} {ls : Multiset Thread} (h : Exclusive s ls)
    (hl : l.held = some s.handouts.length) (hlt : s.handouts.length < s'.handouts.length) :
    Exclusive s' (l ::ₘ ls) := by
  constructor
  · rw [holdings_cons_some hl, Multiset.nodup_cons]
    exact ⟨fun hmem => Nat.lt_irrefl _ (h.lt _ hmem), h.nodup⟩
  · rw [holdings_cons_some hl, Multiset.forall_mem_cons]
    exact ⟨hlt, fun i hi => (h.lt i hi).trans hlt⟩

lemma Exclusive.step {l l' : Thread} {ls : Multiset Thread} (h : Exclusive s (l ::ₘ ls))
    (hle : s.handouts.length ≤ s'.handouts.length) (htakes : Takes s s' l l') : Exclusive s' (l' ::ₘ ls) := by
  rcases htakes with hsame | hnone | ⟨hlt, htaken⟩
  · refine (h.mono hle).congr ?_
    unfold holdings
    cases hl : l.held with
    | none => rw [Multiset.filterMap_cons_none l ls hl, Multiset.filterMap_cons_none l' ls (hsame.trans hl)]
    | some i =>
      rw [Multiset.filterMap_cons_some _ l ls hl, Multiset.filterMap_cons_some _ l' ls (hsame.trans hl)]
  · exact (h.of_cons.mono hle).congr (holdings_cons_none hnone)
  · exact h.of_cons.cons htaken hlt

lemma CallStep.held {i : Request} {l : Thread} (h : CallStep s i s' l) : l.held = none ∧ s'.handouts = s.handouts := by
  cases h with
  | publish msg opts trace => exact ⟨rfl, rfl⟩
  | serve i l hl hheld => exact ⟨hheld, rfl⟩
  | close => exact ⟨rfl, rfl⟩

lemma preserves_exclusive : (program name).Preserves fun s ls => Accounted name s ls ∧ Exclusive s ls where
  call := by
    rintro s rest i s' l ⟨haccount, h⟩ hcall
    obtain ⟨hheld, hsame⟩ := (callStep_of_request hcall).held
    refine ⟨preserves_accounted.call haccount hcall, ?_⟩
    exact (h.mono (Nat.le_of_eq (by rw [hsame]))).congr (holdings_cons_none hheld)
  step := by
    rintro s rest l a s' l' ⟨haccount, h⟩ hstep
    refine ⟨preserves_accounted.step haccount hstep, ?_⟩
    have hthread := threadStep_of_step hstep
    have hle := (hthread.ledger (haccount.sound l (Multiset.mem_cons_self l rest))).length_handed_le
    simp only [State.ledger, List.length_map] at hle
    exact h.step hle hthread.takes
  meet _ hmeet := by cases hmeet

lemma accounted_run {bufferSize : Int} {ms : List (Move Request Action)} {c : System State Thread}
    (h : (program name).Runs (newMemoryQueue bufferSize) ms c) :
    Accounted name c.shared c.threads ∧ Exclusive c.shared c.threads := by
  apply preserves_exclusive.run _ h
  refine ⟨⟨fun l hl => absurd hl (Multiset.notMem_zero l), Lib.Ledger.balanced_nil⟩, Multiset.nodup_zero, ?_⟩
  exact fun i hi => absurd hi (Multiset.notMem_zero i)

/-! ### Rest -/

def Caller.isReturned : Caller → Bool
  | returned _ => true
  | _ => false

def Delayed.isFiring : Delayed → Bool
  | publishing _ => true
  | leaving _ => true
  | _ => false

def Thread.inProgress : Thread → Bool
  | publish p => !p.caller.isReturned || p.delayed.isFiring
  | worker _ .idle => false
  | worker _ .stopped => false
  | worker _ _ => true
  | receive (.returned _) => false
  | receive _ => true
  | settle _ (.returned _) => false
  | settle _ _ => true
  | close (.returned _) => false
  | close _ => true

lemma not_owed_of_rest (h : (Thread.publish p).inProgress = false) : p.mark.owed = false := by
  obtain ⟨hcaller, hdelayed⟩ := Bool.or_eq_false_iff.mp h
  unfold Publish.mark
  split
  · cases hp : p.caller with
    | publishing i =>
      rw [hp] at hcaller
      cases hcaller
    | _ => rfl
  · cases hp : p.delayed with
    | publishing i =>
      rw [hp] at hdelayed
      cases hdelayed
    | _ => rfl

lemma Accounted.placed_iff {ls : Multiset Thread} (h : Accounted name s ls) (hp : .publish p ∈ ls)
    (hdelay : ¬p.Delays name) : p.ref ∈ s.placements ↔ (p.caller.mark p.ref).placed = true := by
  have hsound : p.Sound name := h.sound _ hp
  have habsent : p.delayed = .absent := by
    by_contra hspawned
    exact hdelay (hsound.spawned hspawned).2
  have hiff := h.balanced.placed_iff p.mark ((Multiset.mem_filterMap _ _).mpr ⟨_, hp, rfl⟩)
  rwa [Publish.mark_item, Publish.mark_of_absent habsent] at hiff

lemma Accounted.returns_iff {ls : Multiset Thread} (h : Accounted name s ls) (hp : .publish p ∈ ls)
    (hdelay : ¬p.Delays name) {r : Outcome} (hreturned : p.caller = .returned r) :
    ∃ err, r = .returns err ∧ (err = none ↔ p.ref ∈ s.placements) := by
  have hsound : p.Sound name := h.sound _ hp
  have hiff := h.placed_iff hp hdelay
  have hcalm := hsound.caller_calm
  rw [hreturned] at hiff hcalm
  cases r with
  | panics => cases hcalm
  | returns err =>
    refine ⟨err, rfl, ?_⟩
    rw [hiff]
    cases err with
    | none => exact ⟨fun _ => rfl, fun _ => rfl⟩
    | some err =>
      exact ⟨fun hnone => absurd hnone (Option.some_ne_none err), fun hf => absurd hf Bool.false_ne_true⟩

end MailBaby.MemoryTraffic

namespace MailBaby.Proofs

open Lib MemoryTraffic

theorem queue_conserves {name : String} {bufferSize : Int} {ms : List (Move Request Action)}
    {c : System State Thread} (h : (program name).Runs (newMemoryQueue bufferSize) ms c) :
    c.shared.placements = c.shared.handouts.map Handout.ref ++ c.shared.ch.buffer.map Prod.fst ∧
    c.shared.placements.Nodup ∧
    (∀ (tid tid' : Nat) (l l' : Thread) i, tid ≠ tid' → c.threads[tid]? = some l → c.threads[tid']? = some l' →
      l.held = some i → l'.held ≠ some i) ∧
    (∀ p, .publish p ∈ c.threads → ¬p.Delays name → ∀ r, p.caller = .returned r →
      ∃ err, r = .returns err ∧ (err = none ↔ p.ref ∈ c.shared.placements)) ∧
    ((∀ l ∈ c.threads, l.inProgress = false) →
      c.shared.totalPublished + c.shared.requeues =
        c.shared.handouts.length + c.shared.ch.buffer.length) := by
  obtain ⟨haccount, hexclusive⟩ := accounted_run h
  refine ⟨haccount.balanced.order, haccount.balanced.nodup, ?_, ?_, ?_⟩
  · intro tid tid' l l' i htid hl hl' hi hi'
    obtain ⟨rest, hrest, -⟩ := exists_coe_eq_cons_cons htid hl hl'
    have hnodup := hexclusive.nodup
    rw [hrest, holdings_cons_some hi, holdings_cons_some hi', Multiset.nodup_cons] at hnodup
    exact hnodup.1 (Multiset.mem_cons_self i _)
  · intro p hp hdelay r hreturned
    exact haccount.returns_iff (Multiset.mem_coe.mpr hp) hdelay hreturned
  · intro hrest
    have hpaid : ∀ m ∈ marks c.threads, m.owed = false := by
      intro m hm
      obtain ⟨l, hl, hmark⟩ := (Multiset.mem_filterMap _ _).mp hm
      cases l with
      | publish p =>
        cases hmark
        exact not_owed_of_rest (hrest _ (Multiset.mem_coe.mp hl))
      | _ => cases hmark
    have htotal := haccount.balanced.total_of_paid hpaid
    simpa [State.ledger] using htotal

def putBack : List (Move Request Action) :=
  .call (.publish (some {}) [] ∅) :: List.replicate 6 (.step 0 .proceed) ++
    [.call (.worker false), .step 1 .proceed, .step 1 .proceed, .call (.nack 0 true), .step 2 .proceed,
      .step 2 .proceed, .step 1 .finish, .step 1 .proceed]

theorem queue_conserves_putBack :
    ∃ c, (program "mail").Runs (newMemoryQueue 1) putBack c ∧ (∀ l ∈ c.threads, l.inProgress = false) ∧
      c.shared.totalPublished = 1 ∧ c.shared.requeues = 1 ∧
      c.shared.totalPublished + c.shared.requeues =
        c.shared.handouts.length + c.shared.ch.buffer.length := by
  obtain ⟨c, hrun, hrest, hpublished, hrequeues⟩ : ∃ c, (program "mail").Runs (newMemoryQueue 1) putBack c ∧
      c.threads.map Thread.inProgress = [false, false, false] ∧
      c.shared.totalPublished = 1 ∧ c.shared.requeues = 1 :=
    ⟨_, rfl, rfl, rfl, rfl⟩
  have hidle : ∀ l ∈ c.threads, l.inProgress = false := by
    intro l hl
    have hmem := List.mem_map_of_mem (f := Thread.inProgress) hl
    rw [hrest] at hmem
    simpa using hmem
  exact ⟨c, hrun, hidle, hpublished, hrequeues, (queue_conserves hrun).2.2.2.2 hidle⟩

end MailBaby.Proofs
