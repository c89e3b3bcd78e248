import MailBaby.Queue.Settlement

/-!
# Settling a message once

However the calls of `Ack` and `Nack` interleave, the flag, the calls between their two lock sections and
the successful callbacks stay in balance: the flag stands for exactly one of them.
-/

namespace MailBaby.Settlement

open Lib

def CallbackEvent.succeeded : CallbackEvent → Bool
  | .finished none => true
  | _ => false

def CallbackEvent.isStart : CallbackEvent → Bool
  | .started _ => true
  | .finished _ => false

def NoStartAfterSuccess (log : List CallbackEvent) : Prop :=
  log.Pairwise fun earlier later => earlier.succeeded = true → later.isStart = false

variable {s s' : Shared} {l l' : Call} {a : Action}

lemma step_cases (h : step s l a = some (s', l')) :
    (∃ kind, l = .entered kind ∧ a = .lock ∧ s.msg.acknowledged = true ∧
      s' = s ∧ l' = .returned none) ∨
    (∃ kind err, l = .entered kind ∧ a = .lock ∧ s.msg.acknowledged = false ∧
      unsupported s.msg kind = some err ∧ s' = s ∧ l' = .returned (some err)) ∨
    (∃ kind, l = .entered kind ∧ a = .lock ∧ s.msg.acknowledged = false ∧
      s' = { s with msg := { s.msg with acknowledged := true } } ∧ l' = .flagged kind) ∨
    (∃ kind, l = .flagged kind ∧ a = .invoke ∧
      s' = { s with log := s.log ++ [.started kind] } ∧ l' = .running kind) ∨
    (∃ kind, l = .running kind ∧ a = .finish none ∧
      s' = { s with log := s.log ++ [.finished none] } ∧ l' = .returned none) ∨
    (∃ kind err, l = .running kind ∧ a = .finish (some err) ∧
      s' = { s with log := s.log ++ [.finished (some err)] } ∧ l' = .failed err) ∨
    (∃ err, l = .failed err ∧ a = .rollback ∧
      s' = { s with msg := { s.msg with acknowledged := false } } ∧ l' = .returned (some err)) := by
  cases l with
  | entered kind =>
    cases a with
    | lock =>
      simp only [step] at h
      split_ifs at h with hack
      · cases h
        exact Or.inl ⟨kind, rfl, rfl, hack, rfl, rfl⟩
      · have hopen : s.msg.acknowledged = false := by simpa using hack
        cases hun : unsupported s.msg kind with
        | some err =>
          rw [hun] at h
          cases h
          exact Or.inr (Or.inl ⟨kind, err, rfl, rfl, hopen, hun, rfl, rfl⟩)
        | none =>
          rw [hun] at h
          cases h
          exact Or.inr (Or.inr (Or.inl ⟨kind, rfl, rfl, hopen, rfl, rfl⟩))
    | invoke => cases h
    | finish err => cases h
    | rollback => cases h
  | flagged kind =>
    cases a with
    | invoke =>
      cases h
      exact Or.inr (Or.inr (Or.inr (Or.inl ⟨kind, rfl, rfl, rfl, rfl⟩)))
    | lock => cases h
    | finish err => cases h
    | rollback => cases h
  | running kind =>
    cases a with
    | finish err =>
      cases err with
      | none =>
        cases h
        exact Or.inr (Or.inr (Or.inr (Or.inr (Or.inl ⟨kind, rfl, rfl, rfl, rfl⟩))))
      | some err =>
        cases h
        exact Or.inr (Or.inr (Or.inr (Or.inr (Or.inr (Or.inl ⟨kind, err, rfl, rfl, rfl, rfl⟩)))))
    | lock => cases h
    | invoke => cases h
    | rollback => cases h
  | failed err =>
    cases a with
    | rollback =>
      cases h
      exact Or.inr (Or.inr (Or.inr (Or.inr (Or.inr (Or.inr ⟨err, rfl, rfl, rfl, rfl⟩)))))
    | lock => cases h
    | invoke => cases h
    | finish result => cases h
  | returned err => cases a <;> cases h

/-- The flag stands for the one call between its lock sections, for the one success, or for what
happened to the message before. -/
structure Balanced (before : Bool) (s : Shared) (calls : Multiset Call) : Prop where
  balance : before.toNat + count Call.busy calls + s.log.countP CallbackEvent.succeeded =
    s.msg.acknowledged.toNat
  ordered : NoStartAfterSuccess s.log

lemma NoStartAfterSuccess.append {log : List CallbackEvent} (h : NoStartAfterSuccess log)
    {event : CallbackEvent}
    (hnew : event.isStart = false ∨ log.countP CallbackEvent.succeeded = 0) :
    NoStartAfterSuccess (log ++ [event]) := by
  refine List.pairwise_append.mpr ⟨h, List.pairwise_singleton _ _, ?_⟩
  intro earlier hearlier later hlater hsucc
  rw [List.mem_singleton.mp hlater]
  rcases hnew with hstart | hnone
  · exact hstart
  · exact absurd hsucc (List.countP_eq_zero.mp hnone earlier hearlier)

lemma balanced_step {before : Bool} {rest : Multiset Call} (hb : Balanced before s (l ::ₘ rest))
    (h : step s l a = some (s', l')) : Balanced before s' (l' ::ₘ rest) := by
  obtain ⟨hbal, hord⟩ := hb
  rw [count_cons] at hbal
  have hle := Bool.toNat_le s.msg.acknowledged
  rcases step_cases h with ⟨kind, rfl, -, -, rfl, rfl⟩ | ⟨kind, err, rfl, -, -, -, rfl, rfl⟩ |
    ⟨kind, rfl, -, hopen, rfl, rfl⟩ | ⟨kind, rfl, -, rfl, rfl⟩ | ⟨kind, rfl, -, rfl, rfl⟩ |
    ⟨kind, err, rfl, -, rfl, rfl⟩ | ⟨err, rfl, -, rfl, rfl⟩
  · refine ⟨?_, hord⟩
    rw [count_cons]
    exact hbal
  · refine ⟨?_, hord⟩
    rw [count_cons]
    exact hbal
  · refine ⟨?_, hord⟩
    rw [hopen] at hbal
    simp only [count_cons, Call.busy, Bool.toNat_false, Bool.toNat_true] at hbal ⊢
    omega
  · have hnone : s.log.countP CallbackEvent.succeeded = 0 := by
      simp only [Call.busy, Bool.toNat_true] at hbal
      omega
    refine ⟨?_, hord.append (Or.inr hnone)⟩
    rw [count_cons, List.countP_append]
    exact hbal
  · refine ⟨?_, hord.append (Or.inl rfl)⟩
    rw [count_cons, List.countP_append]
    simp only [Call.busy, Bool.toNat_false, Bool.toNat_true, CallbackEvent.succeeded,
      List.countP_singleton, if_true] at hbal ⊢
    omega
  · refine ⟨?_, hord.append (Or.inl rfl)⟩
    rw [count_cons, List.countP_append]
    exact hbal
  · refine ⟨?_, hord⟩
    simp only [count_cons, Call.busy, Bool.toNat_false, Bool.toNat_true] at hbal ⊢
    omega

lemma preserves_balanced {before : Bool} : program.Preserves (Balanced before) where
  call hb hcall := by
    cases hcall
    refine ⟨?_, hb.ordered⟩
    rw [count_cons]
    exact hb.balance
  step hb hstep := balanced_step hb hstep
  meet hb hmeet := by cases hmeet

lemma balanced_start (m : Message) : Balanced m.acknowledged { msg := m } 0 :=
  ⟨rfl, List.Pairwise.nil⟩

/-! ### What callers are told -/

/-- A call makes its check only while no other call is between its lock sections, and only on a
message whose flag was not set before the first call. -/
def Apart (before : Bool) (c : System Shared Call) (m : Move Kind Action) : Prop :=
  ∀ tid, m = .step tid .lock → before = false ∧ ∀ l ∈ c.threads, l.busy = false

def Succeeds (ms : List (Move Kind Action)) : Prop := ∃ tid, .step tid (.finish none) ∈ ms

variable {before : Bool} {c d : System Shared Call} {m : Move Kind Action} {ms : List (Move Kind Action)}

lemma returned_persists (h : program.next c m = some d) {err : Option GoError}
    (hin : .returned err ∈ c.threads) : .returned err ∈ d.threads := by
  rcases Program.next_cases h with ⟨i, s, l, -, -, -, hd⟩ |
    ⟨tid, a, l, s, l', rest, -, -, hstep, hc, -, hd⟩ | ⟨tid, tid', l, k, s, l', k', rest, -, hmeet, -⟩
  · rw [← Multiset.mem_coe, hd]
    exact Multiset.mem_cons_of_mem hin
  · rw [← Multiset.mem_coe, hc, Multiset.mem_cons] at hin
    rw [← Multiset.mem_coe, hd]
    rcases hin with rfl | hrest
    · cases a <;> cases hstep
    · exact Multiset.mem_cons_of_mem hrest
  · cases hmeet

lemma finished_next (h : program.next c m = some d) :
    .finished none ∈ d.shared.log ↔
      .finished none ∈ c.shared.log ∨ ∃ tid, m = .step tid (.finish none) := by
  rcases Program.next_cases h with ⟨i, s, l, rfl, hcall, hd, -⟩ |
    ⟨tid, a, l, s, l', rest, rfl, -, hstep, -, rfl, -⟩ |
    ⟨tid, tid', l, k, s, l', k', rest, -, hmeet, -⟩
  · cases hcall
    rw [hd]
    simp
  · rcases step_cases hstep with ⟨kind, -, rfl, -, hs, -⟩ | ⟨kind, err, -, rfl, -, -, hs, -⟩ |
      ⟨kind, -, rfl, -, hs, -⟩ | ⟨kind, -, rfl, hs, -⟩ | ⟨kind, -, rfl, hs, -⟩ |
      ⟨kind, err, -, rfl, hs, -⟩ | ⟨err, -, rfl, hs, -⟩
    all_goals
      rw [hs]
      simp
  · cases hmeet

lemma finished_run (h : run program.next c ms = some d) :
    .finished none ∈ d.shared.log ↔ .finished none ∈ c.shared.log ∨ Succeeds ms := by
  induction ms generalizing c with
  | nil =>
    cases h
    simp [Succeeds]
  | cons m ms ih =>
    obtain ⟨e, he, hrun⟩ := run_cons h
    rw [ih hrun, finished_next he, or_assoc]
    apply or_congr_right
    simp only [Succeeds, List.mem_cons]
    constructor
    · rintro (⟨tid, rfl⟩ | ⟨tid, hin⟩)
      · exact ⟨tid, Or.inl rfl⟩
      · exact ⟨tid, Or.inr hin⟩
    · rintro ⟨tid, heq | hin⟩
      · exact Or.inl ⟨tid, heq.symm⟩
      · exact Or.inr ⟨tid, hin⟩

lemma returned_of_not_apart (hb : Balanced before c.shared c.threads) (h : program.next c m = some d)
    (hm : ¬Apart before c m) : .returned none ∈ d.threads := by
  unfold Apart at hm
  push Not at hm
  obtain ⟨tid, rfl, hm⟩ := hm
  have hpos : 0 < before.toNat + count Call.busy (c.threads : Multiset Call) := by
    cases hbefore : before with
    | true => exact Nat.add_pos_left Nat.one_pos _
    | false =>
      obtain ⟨l, hl, hbusy⟩ := hm hbefore
      exact Nat.add_pos_right _ (count_pos.mpr ⟨l, hl, by simpa using hbusy⟩)
  have hack : c.shared.msg.acknowledged = true := by
    have hbal := hb.balance
    cases hset : c.shared.msg.acknowledged with
    | true => rfl
    | false =>
      rw [hset, Bool.toNat_false] at hbal
      omega
  rcases Program.next_cases h with ⟨i, s, l, hmove, -⟩ |
    ⟨tid', a, l, s, l', rest, hmove, -, hstep, -, -, hd⟩ |
    ⟨tid, tid', l, k, s, l', k', rest, hmove, -⟩
  · cases hmove
  · cases hmove
    rw [← Multiset.mem_coe, hd]
    rcases step_cases hstep with ⟨kind, -, -, -, -, rfl⟩ | ⟨kind, err, -, -, hopen, -⟩ |
      ⟨kind, -, -, hopen, -⟩ | ⟨kind, -, hact, -⟩ | ⟨kind, -, hact, -⟩ | ⟨kind, err, -, hact, -⟩ |
      ⟨err, -, hact, -⟩
    · exact Multiset.mem_cons_self _ _
    · rw [hack] at hopen
      cases hopen
    · rw [hack] at hopen
      cases hopen
    all_goals cases hact
  · cases hmove

lemma apart_of_not_returned (hb : Balanced before c.shared c.threads)
    (h : run program.next c ms = some d) (hno : .returned none ∉ d.threads) :
    Along program.next (Apart before) c ms := by
  induction ms generalizing c with
  | nil => trivial
  | cons m ms ih =>
    obtain ⟨e, he, hrun⟩ := run_cons h
    refine ⟨?_, fun e' he' => ?_⟩
    · by_contra hm
      refine hno (run_invariant (I := fun c => .returned none ∈ c.threads) ?_
        (returned_of_not_apart hb he hm) hrun)
      intro s a t hs ht
      exact returned_persists ht hs
    · cases he.symm.trans he'
      exact ih (preserves_balanced.next hb he) hrun

lemma success_of_returned (hb : Balanced before c.shared c.threads) (hm : Apart before c m)
    (h : program.next c m = some d)
    (hc : .returned none ∈ c.threads → .finished none ∈ c.shared.log)
    (hd : .returned none ∈ d.threads) : .finished none ∈ d.shared.log := by
  have hkeep : .finished none ∈ c.shared.log → .finished none ∈ d.shared.log :=
    fun hin => (finished_next h).mpr (Or.inl hin)
  rcases Program.next_cases h with ⟨kind, s, l, -, hcall, -, hthreads⟩ |
    ⟨tid, a, l, s, l', rest, rfl, -, hstep, hrest, hs, hthreads⟩ |
    ⟨tid, tid', l, k, s, l', k', rest, -, hmeet, -⟩
  · cases hcall
    rw [← Multiset.mem_coe, hthreads, Multiset.mem_cons] at hd
    rcases hd with hnew | hold
    · cases hnew
    · exact hkeep (hc hold)
  · rw [← Multiset.mem_coe, hthreads, Multiset.mem_cons] at hd
    have hold : Call.returned none ∈ rest → .finished none ∈ d.shared.log := by
      intro hin
      refine hkeep (hc ?_)
      rw [← Multiset.mem_coe, hrest]
      exact Multiset.mem_cons_of_mem hin
    rcases hd with hnew | hin
    · rcases step_cases hstep with ⟨kind, -, rfl, hack, -, -⟩ | ⟨kind, err, -, -, -, -, -, hl⟩ |
        ⟨kind, -, -, -, -, hl⟩ | ⟨kind, -, -, -, hl⟩ | ⟨kind, -, -, hlog, -⟩ |
        ⟨kind, err, -, -, -, hl⟩ | ⟨err, -, -, -, hl⟩
      · -- the flag is set and no call is between its lock sections: a callback has succeeded
        have hidle : count Call.busy (c.threads : Multiset Call) = 0 :=
          count_eq_zero.mpr fun l hl => (hm tid rfl).2 l hl
        have hbal := hb.balance
        rw [(hm tid rfl).1, hidle, hack, Bool.toNat_false, Nat.zero_add] at hbal
        have hpos : 0 < c.shared.log.countP CallbackEvent.succeeded := by
          rw [hbal]
          decide
        obtain ⟨event, hevent, hsucc⟩ := List.countP_pos_iff.mp hpos
        cases event with
        | started kind => cases hsucc
        | finished err =>
          cases err with
          | none => exact hkeep hevent
          | some err => cases hsucc
      · cases hnew.trans hl
      · cases hnew.trans hl
      · cases hnew.trans hl
      · rw [hs, hlog]
        simp
      · cases hnew.trans hl
      · cases hnew.trans hl
    · exact hold hin
  · cases hmeet

/-! ### A call that nothing interrupts -/

/-- After the callback. -/
def settled (result : Option GoError) (s : Shared) : Option GoError × Shared :=
  (result, if result.isSome then { s with msg := { s.msg with acknowledged := false } } else s)

/-- What a call comes to if its callback returns `result`. -/
def completes (result : Option GoError) (s : Shared) : Call → Option GoError × Shared
  | .entered kind => alone kind result s
  | .flagged kind => settled result { s with log := s.log ++ [.started kind, .finished result] }
  | .running _ => settled result { s with log := s.log ++ [.finished result] }
  | .failed err => settled (some err) s
  | .returned err => (err, s)

lemma alone_eq (kind : Kind) (result : Option GoError) (s : Shared) : alone kind result s =
    if s.msg.acknowledged then (none, s)
    else match unsupported s.msg kind with
      | some err => (some err, s)
      | none => completes result { s with msg := { s.msg with acknowledged := true } } (.flagged kind) := by
  obtain ⟨⟨_, _, _, _, _, _, _, _, acknowledged, ackFn, nackFn⟩, log⟩ := s
  cases acknowledged with
  | true => cases kind <;> rfl
  | false => cases kind <;> cases ackFn <;> cases nackFn <;> cases result <;> rfl

lemma completes_step (h : step s l a = some (s', l')) (result : Option GoError) :
    ∃ result', completes result' s l = completes result s' l' := by
  obtain ⟨kind, rfl, -, hack, rfl, rfl⟩ | ⟨kind, err, rfl, -, hopen, hun, rfl, rfl⟩ |
    ⟨kind, rfl, rfl, hopen, rfl, rfl⟩ | ⟨kind, rfl, -, rfl, rfl⟩ | ⟨kind, rfl, -, rfl, rfl⟩ |
    ⟨kind, err, rfl, -, rfl, rfl⟩ | ⟨err, rfl, -, rfl, rfl⟩ := step_cases h
  · exact ⟨result, (alone_eq kind result _).trans (if_pos hack)⟩
  · refine ⟨result, (alone_eq kind result _).trans ?_⟩
    rw [hopen, hun]
    rfl
  · refine ⟨result, (alone_eq kind result _).trans ?_⟩
    cases hun : unsupported s.msg kind with
    | some err => simp [step, hopen, hun] at h
    | none =>
      rw [hopen]
      rfl
  · exact ⟨result, by simp [completes]⟩
  · exact ⟨none, rfl⟩
  · exact ⟨some err, rfl⟩
  · exact ⟨result, rfl⟩

lemma completes_run {ls : List Call} (as : List Action) {c : System Shared Call}
    (hrun : run program.next ⟨s, ls ++ [l]⟩ (as.map (.step ls.length)) = some c) :
    ∃ l' result, c.threads = ls ++ [l'] ∧ completes result s l = completes none c.shared l' := by
  induction as generalizing s l with
  | nil =>
    cases hrun
    exact ⟨l, none, rfl, rfl⟩
  | cons a as ih =>
    obtain ⟨d, hnext, hrest⟩ := Option.bind_eq_some_iff.mp hrun
    simp only [Program.next, List.getElem?_concat_length, Option.bind_some, Option.map_eq_some_iff] at hnext
    obtain ⟨⟨s', l'⟩, hstep, rfl⟩ := hnext
    rw [List.set_append_right _ _ (Nat.le_refl _), Nat.sub_self] at hrest
    obtain ⟨l'', result, hthreads, hrest⟩ := ih hrest
    obtain ⟨result', hfirst⟩ := completes_step hstep result
    exact ⟨l'', result', hthreads, hfirst.trans hrest⟩

structure SettledOnce (c : System Shared Call) : Prop where
  one_running : c.threads.countP Call.isRunning ≤ 1
  one_success : c.shared.log.countP CallbackEvent.succeeded ≤ 1
  no_start_after_success : NoStartAfterSuccess c.shared.log
  flag_iff : (∀ l ∈ c.threads, l.done = true) →
    (c.shared.msg.acknowledged = true ↔ .finished none ∈ c.shared.log)

lemma Balanced.settledOnce (hb : Balanced false c.shared c.threads) : SettledOnce c := by
  have hbal := hb.balance
  have hle := Bool.toNat_le c.shared.msg.acknowledged
  have hrun : c.threads.countP Call.isRunning ≤ count Call.busy (c.threads : Multiset Call) := by
    rw [← count_coe]
    apply count_le
    intro l hl
    cases l with
    | running kind => rfl
    | entered kind | flagged kind | failed err | returned err => cases hl
  refine ⟨by omega, by omega, hb.ordered, fun hdone => ?_⟩
  have hidle : count Call.busy (c.threads : Multiset Call) = 0 := by
    apply count_eq_zero.mpr
    intro l hl
    have hl := hdone l hl
    cases l with
    | returned err => rfl
    | entered kind | flagged kind | running kind | failed err => cases hl
  rw [hidle, Bool.toNat_false, Nat.zero_add] at hbal
  have hmem : 0 < c.shared.log.countP CallbackEvent.succeeded ↔
      .finished none ∈ c.shared.log := by
    rw [List.countP_pos_iff]
    constructor
    · rintro ⟨event, hin, hsucc⟩
      cases event with
      | started kind => cases hsucc
      | finished err =>
        cases err with
        | none => exact hin
        | some err => cases hsucc
    · exact fun hin => ⟨_, hin, rfl⟩
  rw [← hmem, hbal]
  cases c.shared.msg.acknowledged <;> simp

end MailBaby.Settlement

namespace MailBaby.Proofs

open Lib Settlement

/-- In every interleaving of `Ack` and `Nack` calls: one callback at a time, at most one success,
no callback after it, and a flag that tells between calls whether there was one. -/
theorem settled_once {m : Message} (hopen : m.acknowledged = false)
    {ms : List (Move Kind Action)} {c : System Shared Call}
    (hrun : program.Runs { msg := m } ms c) : SettledOnce c := by
  have hstart : Balanced false { msg := m } 0 := hopen ▸ balanced_start m
  exact (preserves_balanced.run hstart hrun).settledOnce

def offsetMessage : Message :=
  { id := "42", ackFn := some (.commitMessages "mail" 0 7), nackFn := some .returnNil }

def commitError : GoError := ⟨"kafka: connection refused"⟩

def retriedAck : List (Move Kind Action) :=
  [.call .ack, .call .ack, .step 0 .lock, .step 0 .invoke, .step 0 (.finish (some commitError)),
    .step 0 .rollback, .step 1 .lock, .step 1 .invoke, .step 1 (.finish none)]

theorem settled_once_retried : ∃ c, program.Runs { msg := offsetMessage } retriedAck c ∧ SettledOnce c := by
  have hrun : program.Runs { msg := offsetMessage } retriedAck
      ⟨⟨{ offsetMessage with acknowledged := true }, [.started .ack, .finished (some commitError),
        .started .ack, .finished none]⟩, [.returned (some commitError), .returned none]⟩ := rfl
  exact ⟨_, hrun, settled_once rfl hrun⟩

/-- A call that no other one interrupts, in whatever state the message is, comes to what it does in one piece. -/
theorem uninterrupted_call_alone (c : System Shared Call) (kind : Kind) (as : List Action)
    {d : System Shared Call} {err : Option GoError}
    (hrun : run program.next c (.call kind :: as.map (.step c.threads.length)) = some d)
    (hreturned : d.threads[c.threads.length]? = some (.returned err)) :
    ∃ result, alone kind result c.shared = (err, d.shared) := by
  obtain ⟨l, result, hthreads, hcompletes⟩ := completes_run as hrun
  rw [hthreads, List.getElem?_concat_length] at hreturned
  obtain rfl := Option.some.inj hreturned
  exact ⟨result, hcompletes⟩

theorem uninterrupted_call_alone_refused :
    ∃ result, alone .ack result { msg := offsetMessage } =
      (some commitError, ⟨offsetMessage, [.started .ack, .finished (some commitError)]⟩) :=
  uninterrupted_call_alone ⟨{ msg := offsetMessage }, []⟩ .ack
    [.lock, .invoke, .finish (some commitError), .rollback] rfl rfl

/-- A nil result stands for a success exactly if some callback of the run succeeds or no call makes
its check while another one is between its lock sections; in particular once all calls have
returned. -/
theorem reported_settlement_iff {m : Message} {ms : List (Move Kind Action)}
    {c : System Shared Call} (hrun : program.Runs { msg := m } ms c) :
    (.returned none ∈ c.threads → .finished none ∈ c.shared.log) ↔
      Succeeds ms ∨ Along program.next (Apart m.acknowledged) { shared := { msg := m } } ms := by
  have hstart := balanced_start m
  have hlog : .finished none ∈ c.shared.log ↔ Succeeds ms := by
    rw [finished_run hrun]
    simp
  constructor
  · intro h
    by_cases hsucc : Succeeds ms
    · exact Or.inl hsucc
    · exact Or.inr (apart_of_not_returned hstart hrun fun hin => hsucc (hlog.mp (h hin)))
  · rintro (hsucc | halong)
    · exact fun _ => hlog.mpr hsucc
    · refine (run_invariant_along (I := fun c => Balanced m.acknowledged c.shared c.threads ∧
        (.returned none ∈ c.threads → .finished none ∈ c.shared.log)) ?_ ⟨hstart, ?_⟩ halong hrun).2
      · intro c move d hc hmove hd
        exact ⟨preserves_balanced.next hc.1 hd, success_of_returned hc.1 hmove hd hc.2⟩
      · intro hin
        cases hin

def overtakenAck : List (Move Kind Action) :=
  [.call .ack, .step 0 .lock, .call (.nack false), .step 1 .lock, .step 0 .invoke,
    .step 0 (.finish (some commitError)), .step 0 .rollback]

def overtaken : System Shared Call :=
  ⟨⟨offsetMessage, [.started .ack, .finished (some commitError)]⟩,
    [.returned (some commitError), .returned none]⟩

theorem reported_settlement_iff_overtaken :
    (.returned none ∈ overtaken.threads → .finished none ∈ overtaken.shared.log) ↔
      Succeeds overtakenAck ∨
        Along program.next (Apart false) { shared := { msg := offsetMessage } } overtakenAck := by
  have hrun : program.Runs { msg := offsetMessage } overtakenAck overtaken := rfl
  exact reported_settlement_iff hrun

theorem nil_without_settlement : ∃ c, program.Runs { msg := offsetMessage } overtakenAck c ∧
    (∀ l ∈ c.threads, l.done = true) ∧ .returned none ∈ c.threads ∧
    .finished none ∉ c.shared.log ∧ c.shared.msg.acknowledged = false :=
  ⟨overtaken, rfl, by decide, by decide, by decide, rfl⟩

end MailBaby.Proofs
