import MailBaby.Driver.Redelivery

/-!
# Unsettled messages stay deliverable

The committed offset of a partition and the last delivered entry of a consumer group only move forward, and
the consume loops never look behind them.
-/

namespace MailBaby

open Lib

namespace Partition

variable {cfg : KafkaConfig} {co : ConsumeOptions} {p q : Partition} {a : PartitionAction}
variable {i offset worker : Nat} {evs : List Event} {rest keep : List Nat}

structure Valid (p : Partition) : Prop where
  committed_le : p.committed ≤ p.position
  position_le : p.position ≤ p.log.length
  current_eq : ∀ offset, p.current = some offset → p.committed ≤ offset ∧ p.position = offset + 1

lemma step_cases (h : step cfg co p a = some q) :
    (∃ r, a = .produce r ∧ q = { p with log := p.log ++ [r] }) ∨
    (a = .fetch ∧ p.current = none ∧ p.position < p.log.length ∧
      q = { p with current := some p.position, position := p.position + 1 }) ∨
    (∃ hd offset, a = .finish hd ∧ p.current = some offset ∧
      q = p.settle offset (p.effects cfg co offset a)) ∨
    (∃ hd k, a = .crash hd k ∧ p.current = none ∧ q = p.restart) ∨
    (∃ hd k offset, a = .crash hd k ∧ p.current = some offset ∧
      q = (p.settle offset (p.effects cfg co offset a)).restart) := by
  unfold step at h
  split at h
  · cases h
    exact Or.inl ⟨_, rfl, rfl⟩
  · rename_i hcur
    split_ifs at h with hlt
    cases h
    exact Or.inr (Or.inl ⟨rfl, hcur, hlt, rfl⟩)
  · cases h
  · cases h
  · rename_i hd offset hcur
    cases h
    exact Or.inr (Or.inr (Or.inl ⟨hd, offset, rfl, hcur, rfl⟩))
  · rename_i hd k hcur
    cases h
    exact Or.inr (Or.inr (Or.inr (Or.inl ⟨hd, k, rfl, hcur, rfl⟩)))
  · rename_i hd k offset hcur
    cases h
    exact Or.inr (Or.inr (Or.inr (Or.inr ⟨hd, k, offset, rfl, hcur, rfl⟩)))

lemma committed_le_settle (hv : p.Valid) (hcur : p.current = some offset)
    (evs : List Event) : p.committed ≤ (p.settle offset evs).committed ∧
      (p.settle offset evs).committed ≤ p.position := by
  obtain ⟨hle, hpos⟩ := hv.current_eq offset hcur
  have hcp := hv.committed_le
  unfold settle
  dsimp only
  split_ifs <;> omega

lemma valid_step (hv : p.Valid) (h : step cfg co p a = some q) : q.Valid := by
  have hpl := hv.position_le
  rcases step_cases h with ⟨r, -, rfl⟩ | ⟨-, -, hlt, rfl⟩ | ⟨hd, offset, -, hcur, rfl⟩ |
    ⟨hd, k, -, -, rfl⟩ | ⟨hd, k, offset, -, hcur, rfl⟩
  · exact ⟨hv.committed_le, by simp only [List.length_append]; omega, hv.current_eq⟩
  · refine ⟨Nat.le_succ_of_le hv.committed_le, hlt, fun offset hoff => ?_⟩
    cases hoff
    exact ⟨hv.committed_le, rfl⟩
  · exact ⟨(committed_le_settle hv hcur _).2, hpl, fun offset hoff => by cases hoff⟩
  · exact ⟨le_rfl, hv.committed_le.trans hpl, fun offset hoff => by cases hoff⟩
  · exact ⟨le_rfl, (committed_le_settle hv hcur _).2.trans hpl, fun offset hoff => by cases hoff⟩

lemma committed_mono (hv : p.Valid) (h : step cfg co p a = some q) : p.committed ≤ q.committed := by
  rcases step_cases h with ⟨r, -, rfl⟩ | ⟨-, -, -, rfl⟩ | ⟨hd, offset, -, hcur, rfl⟩ |
    ⟨hd, k, -, -, rfl⟩ | ⟨hd, k, offset, -, hcur, rfl⟩
  · exact le_rfl
  · exact le_rfl
  · exact (committed_le_settle hv hcur _).1
  · exact le_rfl
  · exact (committed_le_settle hv hcur _).1

lemma committed_le_of_fetchable (hv : p.Valid) (h : p.Fetchable cfg co offset) :
    p.committed ≤ offset := by
  obtain ⟨q, r, ⟨as, has⟩, hfetch, hcur⟩ := h
  have hq : q.Valid ∧ p.committed ≤ q.committed := run_invariant
    (I := fun q => q.Valid ∧ p.committed ≤ q.committed)
    (fun s a t hs ht => ⟨valid_step hs.1 ht, hs.2.trans (committed_mono hs.1 ht)⟩) ⟨hv, le_rfl⟩ has
  rcases step_cases hfetch with ⟨_, hne, _⟩ | ⟨-, -, -, rfl⟩ | ⟨_, _, hne, _⟩ | ⟨_, _, hne, _⟩ |
    ⟨_, _, _, hne, _⟩
  · cases hne
  · cases hcur
    exact hq.2.trans hq.1.committed_le
  all_goals cases hne

def refused : Handling :=
  { env := { send := fun _ => .returns none, ack := fun _ => some errCanceled } }

lemma settle_refused (p : Partition) (offset : Nat) :
    p.settle offset (p.effects cfg co offset (.finish refused)) = { p with current := none } := by
  have hset : (p.effects cfg co offset (.finish refused)).any Event.settled = false := by
    unfold effects Handling.events Kafka.processMessage
    cases co.autoAck || cfg.autoCommit <;> rfl
  have hrej : (p.effects cfg co offset (.finish refused)).any Event.rejected = false := by
    unfold effects Handling.events Kafka.processMessage
    cases co.autoAck || cfg.autoCommit <;> rfl
  unfold settle Ledger.note
  rw [hset, hrej]
  rfl

lemma fetchable_of_position_le (cfg : KafkaConfig) (co : ConsumeOptions)
    (hcur : p.current = none) (hle : p.position ≤ offset) (hlt : offset < p.log.length) :
    p.Fetchable cfg co offset := by
  induction hn : offset - p.position generalizing p with
  | zero =>
    have hpos : p.position = offset := by omega
    refine ⟨p, { p with current := some p.position, position := p.position + 1 }, Reaches.refl p, ?_,
      congrArg some hpos⟩
    unfold step
    rw [hcur]
    simp only [if_pos (show p.position < p.log.length by omega)]
  | succ n ih =>
    let fetched : Partition := { p with current := some p.position, position := p.position + 1 }
    let next : Partition := { fetched with current := none }
    have hfetch : step cfg co p .fetch = some fetched := by
      unfold step
      rw [hcur]
      simp only [if_pos (show p.position < p.log.length by omega)]
      rfl
    have hfinish : step cfg co fetched (.finish refused) = some next :=
      congrArg some (settle_refused fetched p.position)
    have hnext : next.position = p.position + 1 := rfl
    obtain ⟨q, r, hreach, hq, hr⟩ := ih (p := next) rfl (by omega) hlt (by omega)
    exact ⟨q, r, (Reaches.single hfetch).trans ((Reaches.single hfinish).trans hreach), hq, hr⟩

lemma fetchable_iff (hv : p.Valid) (hlt : offset < p.log.length) :
    p.Fetchable cfg co offset ↔ p.committed ≤ offset := by
  refine ⟨committed_le_of_fetchable hv, fun hle => ?_⟩
  have hcrash : step cfg co p (.crash refused 0) = some p.restart := by
    unfold step
    cases hcur : p.current with
    | none => rfl
    | some current => rfl
  obtain ⟨q, r, hreach, hq, hr⟩ :=
    fetchable_of_position_le cfg co (p := p.restart) rfl hle hlt
  exact ⟨q, r, (Reaches.single hcrash).trans hreach, hq, hr⟩

def Covered (p : Partition) : Prop :=
  ∀ offset < p.committed, p.ledger.settled offset

lemma deliverable_iff (hv : p.Valid) : p.Deliverable cfg co ↔ p.Covered := by
  have hlen := hv.committed_le.trans hv.position_le
  constructor
  · intro h offset hoff
    by_contra hno
    have hle := committed_le_of_fetchable hv (h offset (by omega) hno)
    omega
  · intro h offset hoff hno
    rw [fetchable_iff hv hoff]
    by_contra hlt
    exact hno (h offset (by omega))

lemma covered_settle_iff (hc : p.Covered) :
    (p.settle offset evs).Covered ↔ (evs.any Event.settled = true →
      ∀ earlier < offset, p.ledger.settled earlier) := by
  unfold Covered
  have hcommitted : (p.settle offset evs).committed =
      if evs.any Event.settled then offset + 1 else p.committed := rfl
  constructor
  · intro h hset earlier hlt
    rw [hcommitted, if_pos hset] at h
    rcases Ledger.settled_note.mp (h earlier (by omega)) with hin | ⟨heq, -⟩
    · exact hin
    · omega
  · intro h o ho
    refine Ledger.settled_note.mpr ?_
    rw [hcommitted] at ho
    split_ifs at ho with hset
    · by_cases heq : o = offset
      · exact Or.inr ⟨heq, Or.inl hset⟩
      · exact Or.inl (h hset o (by omega))
    · exact Or.inl (hc o ho)

lemma covered_of_covered_settle (hv : p.Valid) (hcur : p.current = some offset) (h : (p.settle offset evs).Covered) : p.Covered := by
  intro o ho
  have hlow := (hv.current_eq offset hcur).1
  have hle := (committed_le_settle hv hcur evs).1
  rcases Ledger.settled_note.mp (h o (by omega)) with hin | ⟨heq, -⟩
  · exact hin
  · omega

lemma covered_step_iff (hc : p.Covered) (h : step cfg co p a = some q) :
    q.Covered ↔ p.InOrder cfg co a := by
  rcases step_cases h with ⟨r, rfl, rfl⟩ | ⟨rfl, hcur, -, rfl⟩ | ⟨hd, offset, rfl, hcur, rfl⟩ |
    ⟨hd, k, rfl, hcur, rfl⟩ | ⟨hd, k, offset, rfl, hcur, rfl⟩
  · exact ⟨fun _ offset _ hset => by simp [effects] at hset, fun _ => hc⟩
  · exact ⟨fun _ offset hoff => absurd (hcur.symm.trans hoff) (by simp), fun _ => hc⟩
  · rw [covered_settle_iff hc]
    refine ⟨fun hin offset' hoff => ?_, fun hin => hin offset hcur⟩
    cases hcur.symm.trans hoff
    exact hin
  · exact ⟨fun _ offset hoff => absurd (hcur.symm.trans hoff) (by simp), fun _ => hc⟩
  · have hrestart : (p.settle offset (p.effects cfg co offset (.crash hd k))).restart.Covered ↔
        (p.settle offset (p.effects cfg co offset (.crash hd k))).Covered := Iff.rfl
    rw [hrestart, covered_settle_iff hc]
    refine ⟨fun hin offset' hoff => ?_, fun hin => hin offset hcur⟩
    cases hcur.symm.trans hoff
    exact hin

lemma covered_of_step (hv : p.Valid) (h : step cfg co p a = some q) (hq : q.Covered) : p.Covered := by
  rcases step_cases h with ⟨r, -, rfl⟩ | ⟨-, -, -, rfl⟩ | ⟨hd, offset, -, hcur, rfl⟩ |
    ⟨hd, k, -, -, rfl⟩ | ⟨hd, k, offset, -, hcur, rfl⟩
  · exact hq
  · exact hq
  · exact covered_of_covered_settle hv hcur hq
  · exact hq
  · exact covered_of_covered_settle hv hcur hq

lemma valid_start (log : List Kafka.Record) : ({ log := log } : Partition).Valid :=
  ⟨le_rfl, Nat.zero_le _, fun offset h => by cases h⟩

lemma valid_of_run {log : List Kafka.Record} {as : List PartitionAction}
    (hrun : run (step cfg co) { log := log } as = some p) : p.Valid :=
  run_invariant (I := Valid) (fun _ _ _ hs ht => valid_step hs ht) (valid_start log) hrun

lemma deliverable_iff_along (log : List Kafka.Record) (as : List PartitionAction)
    (hrun : run (step cfg co) { log := log } as = some p) :
    p.Deliverable cfg co ↔ Along (step cfg co) (fun p a => p.InOrder cfg co a) { log := log } as := by
  rw [deliverable_iff (valid_of_run hrun)]
  refine run_iff_along (I := Valid) (P := Covered) ?_ ?_ ?_ ?_ (valid_start log) ?_ hrun
  · intro s a t hs ht
    exact valid_step hs ht
  · intro s a t hs hc hin ht
    exact (covered_step_iff hc ht).mpr hin
  · intro s a t hs hno ht hct
    exact hno ((covered_step_iff (covered_of_step hs ht hct) ht).mp hct)
  · intro s a t hs hc ht hct
    exact hc (covered_of_step hs ht hct)
  · intro offset hoff
    exact absurd hoff (Nat.not_lt_zero offset)

end Partition

namespace Stream

variable {reader : StreamReader} {s t : Stream} {a : StreamAction}

/-- The entries in the hands of workers are delivered, unsettled and held once. -/
structure Valid (s : Stream) : Prop where
  delivered_le : s.delivered ≤ s.entries.length
  settled_lt : ∀ i, s.ledger.settled i → i < s.delivered
  held : ∀ worker i, i ∈ s.workers worker → i < s.delivered ∧ ¬s.ledger.settled i
  nodup : ∀ worker, (s.workers worker).Nodup
  disjoint : ∀ w w' i, i ∈ s.workers w → i ∈ s.workers w' → w = w'

lemma step_cases (h : step reader s a = some t) :
    (∃ x, a = .add x ∧ t = { s with entries := s.entries ++ [x] }) ∨
    (∃ worker, a = .read worker ∧ s.workers worker = [] ∧
      t = { s.setWorker worker (s.unread reader) with
        delivered := s.delivered + (s.unread reader).length }) ∨
    (∃ worker hd i rest, a = .finish worker hd ∧ s.workers worker = i :: rest ∧
      t = s.conclude worker i (s.effects reader i a) rest) ∨
    (∃ worker hd k, a = .crash worker hd k ∧ s.workers worker = [] ∧ t = s) ∨
    (∃ worker hd k i rest, a = .crash worker hd k ∧ s.workers worker = i :: rest ∧
      t = s.conclude worker i (s.effects reader i a) []) := by
  cases a with
  | add x =>
    cases h
    exact Or.inl ⟨x, rfl, rfl⟩
  | read worker =>
    simp only [step] at h
    split_ifs at h with hidle
    cases h
    exact Or.inr (Or.inl ⟨worker, rfl, hidle, rfl⟩)
  | finish worker hd =>
    simp only [step] at h
    split at h
    · cases h
    · rename_i i rest hbatch
      cases h
      exact Or.inr (Or.inr (Or.inl ⟨worker, hd, i, rest, rfl, hbatch, rfl⟩))
  | crash worker hd k =>
    simp only [step] at h
    split at h
    · rename_i hidle
      cases h
      exact Or.inr (Or.inr (Or.inr (Or.inl ⟨worker, hd, k, rfl, hidle, rfl⟩)))
    · rename_i i rest hbatch
      cases h
      exact Or.inr (Or.inr (Or.inr (Or.inr ⟨worker, hd, k, i, rest, rfl, hbatch, rfl⟩)))

lemma mem_unread (h : i ∈ s.unread reader) :
    s.delivered ≤ i ∧ i < s.delivered + (s.unread reader).length := by
  unfold unread at h ⊢
  rw [List.mem_range'_1] at h
  rw [List.length_range']
  exact h

lemma mem_setWorker {w : Nat} {batch : List Nat} :
    i ∈ (s.setWorker worker batch).workers w ↔
      (w = worker ∧ i ∈ batch) ∨ (w ≠ worker ∧ i ∈ s.workers w) := by
  unfold setWorker
  dsimp only
  by_cases hw : w = worker <;> simp [hw]

lemma valid_read (hv : s.Valid) (worker : Nat) :
    Valid { s.setWorker worker (s.unread reader) with
      delivered := s.delivered + (s.unread reader).length } := by
  refine ⟨?_, fun i hi => ?_, fun w i hi => ?_, fun w => ?_, fun w w' i hi hi' => ?_⟩
  · have hlen : (s.unread reader).length ≤ s.entries.length - s.delivered := by
      unfold unread
      rw [List.length_range']
      exact min_le_right _ _
    have hle := hv.delivered_le
    change s.delivered + (s.unread reader).length ≤ s.entries.length
    omega
  · exact Nat.lt_add_right _ (hv.settled_lt i hi)
  · rcases mem_setWorker.mp hi with ⟨-, hnew⟩ | ⟨-, hold⟩
    · obtain ⟨hlow, hhigh⟩ := mem_unread hnew
      exact ⟨hhigh, fun hset => by have := hv.settled_lt i hset; omega⟩
    · exact ⟨Nat.lt_add_right _ (hv.held w i hold).1, (hv.held w i hold).2⟩
  · change (if w = worker then s.unread reader else s.workers w).Nodup
    split_ifs
    · exact List.nodup_range'
    · exact hv.nodup w
  · rcases mem_setWorker.mp hi with ⟨hw, hnew⟩ | ⟨hw, hold⟩ <;>
      rcases mem_setWorker.mp hi' with ⟨hw', hnew'⟩ | ⟨hw', hold'⟩
    · exact hw.trans hw'.symm
    · have := (mem_unread hnew).1
      have := (hv.held w' i hold').1
      omega
    · have := (mem_unread hnew').1
      have := (hv.held w i hold).1
      omega
    · exact hv.disjoint w w' i hold hold'

lemma valid_conclude (hv : s.Valid)
    (hbatch : s.workers worker = i :: rest) (hkeep : keep.Sublist rest) :
    (s.conclude worker i evs keep).Valid := by
  have hnodup := hv.nodup worker
  rw [hbatch, List.nodup_cons] at hnodup
  have hmem : ∀ j ∈ keep, j ∈ s.workers worker := by
    intro j hj
    rw [hbatch]
    exact List.mem_cons_of_mem i (hkeep.subset hj)
  have hhead : i ∈ s.workers worker := by
    rw [hbatch]
    exact List.mem_cons_self
  refine ⟨hv.delivered_le, fun j hj => ?_, fun w j hj => ?_, fun w => ?_, fun w w' j hj hj' => ?_⟩
  · rcases Ledger.settled_note.mp hj with hold | ⟨rfl, -⟩
    · exact hv.settled_lt j hold
    · exact (hv.held worker j hhead).1
  · rcases mem_setWorker.mp hj with ⟨-, hin⟩ | ⟨hne, hin⟩
    · refine ⟨(hv.held worker j (hmem j hin)).1, fun hset => ?_⟩
      rcases Ledger.settled_note.mp hset with hold | ⟨rfl, -⟩
      · exact (hv.held worker j (hmem j hin)).2 hold
      · exact hnodup.1 (hkeep.subset hin)
    · refine ⟨(hv.held w j hin).1, fun hset => ?_⟩
      rcases Ledger.settled_note.mp hset with hold | ⟨rfl, -⟩
      · exact (hv.held w j hin).2 hold
      · exact hne (hv.disjoint w worker j hin hhead)
  · change (if w = worker then keep else s.workers w).Nodup
    split_ifs
    · exact hnodup.2.sublist hkeep
    · exact hv.nodup w
  · have hsub : ∀ w, j ∈ (s.conclude worker i evs keep).workers w → j ∈ s.workers w := by
      intro w hw
      rcases mem_setWorker.mp hw with ⟨rfl, hin⟩ | ⟨-, hin⟩
      · exact hmem j hin
      · exact hin
    exact hv.disjoint w w' j (hsub w hj) (hsub w' hj')

lemma valid_step (hv : s.Valid) (h : step reader s a = some t) : t.Valid := by
  rcases step_cases h with ⟨x, -, rfl⟩ | ⟨w, -, -, rfl⟩ | ⟨w, hd, i, rest, -, hbatch, rfl⟩ |
    ⟨w, hd, k, -, -, rfl⟩ | ⟨w, hd, k, i, rest, -, hbatch, rfl⟩
  · refine ⟨?_, hv.settled_lt, hv.held, hv.nodup, hv.disjoint⟩
    have hle := hv.delivered_le
    simp only [List.length_append]
    omega
  · exact valid_read hv w
  · exact valid_conclude hv hbatch (List.Sublist.refl rest)
  · exact hv
  · exact valid_conclude hv hbatch (List.nil_sublist rest)

lemma delivered_mono (h : step reader s a = some t) : s.delivered ≤ t.delivered := by
  rcases step_cases h with ⟨x, -, rfl⟩ | ⟨w, -, -, rfl⟩ | ⟨w, hd, i, rest, -, -, rfl⟩ |
    ⟨w, hd, k, -, -, rfl⟩ | ⟨w, hd, k, i, rest, -, -, rfl⟩
  · exact le_rfl
  · exact Nat.le_add_right _ _
  all_goals exact le_rfl

lemma delivered_le_of_fetchable (h : s.Fetchable reader i) : s.delivered ≤ i := by
  obtain ⟨t, t', worker, ⟨as, has⟩, hread, hin⟩ := h
  have hle : s.delivered ≤ t.delivered := run_invariant (I := fun t => s.delivered ≤ t.delivered)
    (fun _ _ _ hs ht => hs.trans (delivered_mono ht)) le_rfl has
  rcases step_cases hread with ⟨_, hne, _⟩ | ⟨w, hw, -, rfl⟩ | ⟨_, _, _, _, hne, _⟩ |
    ⟨_, _, _, hne, _⟩ | ⟨_, _, _, _, _, hne, _⟩
  · cases hne
  · cases hw
    rcases mem_setWorker.mp hin with ⟨-, hnew⟩ | ⟨hne, -⟩
    · exact hle.trans (mem_unread hnew).1
    · exact absurd rfl hne
  all_goals cases hne

lemma prefetch_pos (co : ConsumeOptions) : 0 < Redis.prefetch co := by
  unfold Redis.prefetch
  split_ifs <;> omega

lemma fetchable_of_delivered_le (hle : s.delivered ≤ i) (hlt : i < s.entries.length) :
    s.Fetchable reader i := by
  induction hn : i - s.delivered using Nat.strong_induction_on generalizing s with
  | _ n ih =>
    -- worker 0 first drops whatever it holds
    obtain ⟨s₀, hcrash, hidle, hdel, hent⟩ : ∃ s₀, step reader s (.crash 0 {} 0) = some s₀ ∧
        s₀.workers 0 = [] ∧ s₀.delivered = s.delivered ∧ s₀.entries = s.entries := by
      unfold step
      dsimp only
      split
      · rename_i hw
        exact ⟨s, rfl, hw, rfl, rfl⟩
      · exact ⟨_, rfl, rfl, rfl, rfl⟩
    let s₁ : Stream := { s₀.setWorker 0 (s₀.unread reader) with
      delivered := s₀.delivered + (s₀.unread reader).length }
    have hread : step reader s₀ (.read 0) = some s₁ := by
      unfold step
      dsimp only
      rw [if_pos hidle]
    have hlen : (s₀.unread reader).length =
        min (Redis.prefetch reader.co) (s.entries.length - s.delivered) := by
      unfold unread
      rw [List.length_range', hdel, hent]
    have hpos := prefetch_pos reader.co
    by_cases hin : i < s₁.delivered
    · have hunread : i ∈ s₀.unread reader := by
        have hin' : i < s₀.delivered + (s₀.unread reader).length := hin
        unfold unread at hin' ⊢
        rw [List.length_range'] at hin'
        rw [List.mem_range'_1]
        omega
      have hmem : i ∈ (s₀.setWorker 0 (s₀.unread reader)).workers 0 :=
        mem_setWorker.mpr (Or.inl ⟨rfl, hunread⟩)
      exact ⟨s₀, s₁, 0, Reaches.single hcrash, hread, hmem⟩
    · have hdel₁ : s₁.delivered = s₀.delivered + (s₀.unread reader).length := rfl
      have hent₁ : s₁.entries.length = s.entries.length := congrArg List.length hent
      obtain ⟨t, t', worker, hreach, ht, hmem⟩ :=
        ih (i - s₁.delivered) (by omega) (s := s₁) (by omega) (by omega) rfl
      exact ⟨t, t', worker, (Reaches.single hcrash).trans ((Reaches.single hread).trans hreach), ht, hmem⟩

def Tracked (s : Stream) : Prop :=
  ∀ i < s.delivered, s.ledger.settled i ∨ ∃ worker, i ∈ s.workers worker

lemma deliverable_iff (hv : s.Valid) : s.Deliverable reader ↔ s.Idle ∧ s.Tracked := by
  constructor
  · intro h
    have hall : ∀ i < s.delivered, s.ledger.settled i := by
      intro i hi
      by_contra hno
      have hle := delivered_le_of_fetchable (h i (hi.trans_le hv.delivered_le) hno)
      omega
    refine ⟨fun worker => ?_, fun i hi => Or.inl (hall i hi)⟩
    by_contra hne
    obtain ⟨i, hi⟩ := List.exists_mem_of_ne_nil _ hne
    exact (hv.held worker i hi).2 (hall i (hv.held worker i hi).1)
  · rintro ⟨hidle, htracked⟩ i hi hno
    refine fetchable_of_delivered_le ?_ hi
    by_contra hlt
    rcases htracked i (by omega) with hset | ⟨worker, hin⟩
    · exact hno hset
    · rw [hidle worker] at hin
      cases hin

lemma tracked_conclude_iff (hv : s.Valid) (ht : s.Tracked) (hbatch : s.workers worker = i :: rest) (hkeep : keep.Sublist rest) :
    (s.conclude worker i evs keep).Tracked ↔ Ledger.settles evs ∧ ∀ j ∈ rest, j ∈ keep := by
  have hnodup := hv.nodup worker
  rw [hbatch, List.nodup_cons] at hnodup
  have hheld : ∀ j, j = i ∨ j ∈ rest → j ∈ s.workers worker := by
    intro j hj
    rw [hbatch]
    exact List.mem_cons.mpr hj
  have hnew : ∀ w j, j ∈ (s.conclude worker i evs keep).workers w → j ∈ s.workers worker → j ∈ keep := by
    intro w j hw hj
    rcases mem_setWorker.mp hw with ⟨-, hin⟩ | ⟨hne, hin⟩
    · exact hin
    · exact absurd (hv.disjoint w worker j hin hj) hne
  constructor
  · intro h
    refine ⟨?_, fun j hj => ?_⟩
    · have hi := hheld i (Or.inl rfl)
      rcases h i (hv.held worker i hi).1 with hset | ⟨w, hw⟩
      · rcases Ledger.settled_note.mp hset with hold | ⟨-, hs⟩
        · exact absurd hold (hv.held worker i hi).2
        · exact hs
      · exact absurd (hkeep.subset (hnew w i hw hi)) hnodup.1
    · have hin := hheld j (Or.inr hj)
      rcases h j (hv.held worker j hin).1 with hset | ⟨w, hw⟩
      · rcases Ledger.settled_note.mp hset with hold | ⟨rfl, -⟩
        · exact absurd hold (hv.held worker j hin).2
        · exact absurd hj hnodup.1
      · exact hnew w j hw hin
  · rintro ⟨hset, hall⟩ j hj
    rcases ht j hj with hold | ⟨w, hw⟩
    · exact Or.inl (Ledger.settled_note.mpr (Or.inl hold))
    · by_cases hww : w = worker
      · rw [hww, hbatch, List.mem_cons] at hw
        rcases hw with rfl | hrest
        · exact Or.inl (Ledger.settled_note.mpr (Or.inr ⟨rfl, hset⟩))
        · exact Or.inr ⟨worker, mem_setWorker.mpr (Or.inl ⟨rfl, hall j hrest⟩)⟩
      · exact Or.inr ⟨w, mem_setWorker.mpr (Or.inr ⟨hww, hw⟩)⟩

lemma tracked_of_tracked_conclude
    (hbatch : s.workers worker = i :: rest) (hkeep : keep.Sublist rest)
    (h : (s.conclude worker i evs keep).Tracked) : s.Tracked := by
  intro j hj
  rcases h j hj with hset | ⟨w, hw⟩
  · rcases Ledger.settled_note.mp hset with hold | ⟨rfl, -⟩
    · exact Or.inl hold
    · exact Or.inr ⟨worker, by rw [hbatch]; exact List.mem_cons_self⟩
  · rcases mem_setWorker.mp hw with ⟨-, hin⟩ | ⟨-, hin⟩
    · exact Or.inr ⟨worker, by rw [hbatch]; exact List.mem_cons_of_mem i (hkeep.subset hin)⟩
    · exact Or.inr ⟨w, hin⟩

lemma tracked_read_iff (hidle : s.workers worker = []) :
    Tracked { s.setWorker worker (s.unread reader) with
      delivered := s.delivered + (s.unread reader).length } ↔ s.Tracked := by
  constructor
  · intro h i hi
    rcases h i (Nat.lt_add_right _ hi) with hset | ⟨w, hw⟩
    · exact Or.inl hset
    · rcases mem_setWorker.mp hw with ⟨-, hnew⟩ | ⟨-, hold⟩
      · have := (mem_unread hnew).1
        omega
      · exact Or.inr ⟨w, hold⟩
  · intro h i hi
    by_cases hlt : i < s.delivered
    · rcases h i hlt with hset | ⟨w, hw⟩
      · exact Or.inl hset
      · refine Or.inr ⟨w, mem_setWorker.mpr (Or.inr ⟨?_, hw⟩)⟩
        rintro rfl
        rw [hidle] at hw
        cases hw
    · refine Or.inr ⟨worker, mem_setWorker.mpr (Or.inl ⟨rfl, ?_⟩)⟩
      have hhigh : i < s.delivered + (s.unread reader).length := hi
      unfold unread at hhigh ⊢
      rw [List.length_range'] at hhigh
      rw [List.mem_range'_1]
      omega

lemma tracked_step_iff (hv : s.Valid) (ht : s.Tracked) (h : step reader s a = some t) :
    t.Tracked ↔ s.Settles reader a := by
  rcases step_cases h with ⟨x, rfl, rfl⟩ | ⟨w, rfl, hidle, rfl⟩ | ⟨w, hd, i, rest, rfl, hbatch, rfl⟩ |
    ⟨w, hd, k, rfl, hidle, rfl⟩ | ⟨w, hd, k, i, rest, rfl, hbatch, rfl⟩
  · exact ⟨fun _ => trivial, fun _ => ht⟩
  · exact ⟨fun _ => trivial, fun _ => (tracked_read_iff hidle).mpr ht⟩
  · rw [tracked_conclude_iff hv ht hbatch (List.Sublist.refl rest)]
    constructor
    · rintro ⟨hset, -⟩ j rest' hj
      cases hbatch.symm.trans hj
      exact hset
    · exact fun hset => ⟨hset i rest hbatch, fun j hj => hj⟩
  · refine ⟨fun _ i rest hbatch => ?_, fun _ => ht⟩
    rw [hidle] at hbatch
    cases hbatch
  · rw [tracked_conclude_iff hv ht hbatch (List.nil_sublist rest)]
    constructor
    · rintro ⟨hset, hall⟩ j rest' hj
      cases hbatch.symm.trans hj
      exact ⟨hset, List.eq_nil_iff_forall_not_mem.mpr fun j hj => by cases hall j hj⟩
    · intro hset
      obtain ⟨hs, hnil⟩ := hset i rest hbatch
      refine ⟨hs, fun j hj => ?_⟩
      rw [hnil] at hj
      exact hj

lemma tracked_of_step (h : step reader s a = some t) (ht : t.Tracked) : s.Tracked := by
  rcases step_cases h with ⟨x, -, rfl⟩ | ⟨w, -, hidle, rfl⟩ | ⟨w, hd, i, rest, -, hbatch, rfl⟩ |
    ⟨w, hd, k, -, -, rfl⟩ | ⟨w, hd, k, i, rest, -, hbatch, rfl⟩
  · exact ht
  · exact (tracked_read_iff hidle).mp ht
  · exact tracked_of_tracked_conclude hbatch (List.Sublist.refl rest) ht
  · exact ht
  · exact tracked_of_tracked_conclude hbatch (List.nil_sublist rest) ht

lemma valid_start (entries : List Redis.XMessage) : ({ entries := entries } : Stream).Valid where
  delivered_le := Nat.zero_le _
  settled_lt i h := by rcases h with h | h <;> cases h
  held w i h := by cases h
  nodup _ := List.nodup_nil
  disjoint w w' i h := by cases h

lemma valid_of_run {entries : List Redis.XMessage} {as : List StreamAction}
    (hrun : run (step reader) { entries := entries } as = some s) : s.Valid :=
  run_invariant (I := Valid) (fun _ _ _ hs ht => valid_step hs ht) (valid_start entries) hrun

lemma deliverable_iff_along (entries : List Redis.XMessage) (as : List StreamAction)
    (hrun : run (step reader) { entries := entries } as = some s) :
    s.Deliverable reader ↔
      s.Idle ∧ Along (step reader) (fun s a => s.Settles reader a) { entries := entries } as := by
  rw [deliverable_iff (valid_of_run hrun)]
  refine and_congr_right fun _ => ?_
  refine run_iff_along (I := Valid) (P := Tracked) ?_ ?_ ?_ ?_ (valid_start entries) ?_ hrun
  · intro s a t hs ht
    exact valid_step hs ht
  · intro s a t hs htr hset ht
    exact (tracked_step_iff hs htr ht).mpr hset
  · intro s a t hs hno ht htt
    exact hno ((tracked_step_iff hs (tracked_of_step ht htt) ht).mp htt)
  · intro s a t hs htr ht htt
    exact htr (tracked_of_step ht htt)
  · intro i hi
    exact absurd hi (Nat.not_lt_zero i)

end Stream

namespace Proofs

/-- An unsettled message stays deliverable: on a Kafka partition exactly if every commit finds the
earlier messages settled, on a Redis stream exactly if every entry is settled by the worker that
read it. -/
theorem unsettled_deliverable_iff (cfg : KafkaConfig) (co : ConsumeOptions) (reader : StreamReader) :
    (∀ log as p, run (Partition.step cfg co) { log := log } as = some p →
      (p.Deliverable cfg co ↔
        Along (Partition.step cfg co) (fun p a => p.InOrder cfg co a) { log := log } as)) ∧
    (∀ entries as s, run (Stream.step reader) { entries := entries } as = some s →
      (s.Deliverable reader ↔ s.Idle ∧
        Along (Stream.step reader) (fun s a => s.Settles reader a) { entries := entries } as)) :=
  ⟨fun log as _ hrun => Partition.deliverable_iff_along log as hrun,
    fun entries as _ hrun => Stream.deliverable_iff_along entries as hrun⟩

def plainReader : StreamReader :=
  { codec := ⟨fun _ => .ok [], fun _ => .error ⟨"not an envelope"⟩⟩, now := 0, cfg := {}, co := {} }

def requeues : Handling := { calls := [.nack true] }

theorem unsettled_deliverable_iff_requeue :
    (∃ p, run (Partition.step {} {}) { log := [{}] } [.fetch, .finish requeues] = some p ∧
      (p.Deliverable {} {} ↔ Along (Partition.step {} {}) (fun p a => p.InOrder {} {} a)
        { log := [{}] } [.fetch, .finish requeues])) ∧
    (∃ s, run (Stream.step plainReader) { entries := [⟨"1-0", ∅⟩] } [.read 0, .finish 0 requeues] = some s ∧
      (s.Deliverable plainReader ↔ s.Idle ∧ Along (Stream.step plainReader)
        (fun s a => s.Settles plainReader a) { entries := [⟨"1-0", ∅⟩] } [.read 0, .finish 0 requeues])) :=
  ⟨⟨_, rfl, (unsettled_deliverable_iff {} {} plainReader).1 _ _ _ rfl⟩,
    ⟨_, rfl, (unsettled_deliverable_iff {} {} plainReader).2 _ _ _ rfl⟩⟩

/-- A requeued message is lost: on Kafka when the next message is committed, on a Redis stream at
once. -/
theorem requeued_message_is_lost :
    (∃ p, run (Partition.step {} {}) { log := [{}, {}] }
        [.fetch, .finish requeues, .fetch, .finish {}] = some p ∧ ¬p.Deliverable {} {}) ∧
    (∃ s, run (Stream.step plainReader) { entries := [⟨"1-0", ∅⟩] } [.read 0, .finish 0 requeues] =
        some s ∧ s.Idle ∧ ¬s.Deliverable plainReader) := by
  have hkafka : run (Partition.step {} {}) { log := [{}, {}] }
      [.fetch, .finish requeues, .fetch, .finish {}] = some _ := rfl
  have hredis : run (Stream.step plainReader) { entries := [⟨"1-0", ∅⟩] }
      [.read 0, .finish 0 requeues] = some _ := rfl
  refine ⟨⟨_, hkafka, fun hd => ?_⟩, ⟨_, hredis, fun worker => by cases worker <;> rfl, fun hd => ?_⟩⟩
  · have hcovered := (Partition.deliverable_iff (Partition.valid_of_run hkafka)).mp hd
    exact absurd (hcovered 0 (by decide)) (by decide)
  · obtain ⟨hidle, htracked⟩ := (Stream.deliverable_iff (Stream.valid_of_run hredis)).mp hd
    rcases htracked 0 (by decide) with hset | ⟨worker, hin⟩
    · exact absurd hset (by decide)
    · rw [hidle worker] at hin
      cases hin

end Proofs

end MailBaby
