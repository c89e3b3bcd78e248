import MailBaby.Proofs.Pool

/-!
# Borrowing a client

The steps of `Acquire` and `Release` on a pool that nobody closes: which way a call goes, what it does to
the clients that are lent, and why it comes to an end.
-/

namespace MailBaby.Pool

open Lib

variable {pool : SmtpConnPool} {p p' : State} {l l' : Call} {a : Action}

structure State.IsOpen (p : State) : Prop where
  writer : p.writer = false
  closed : p.closed = false
  idleClosed : p.idleClosed = false

def Resume.ofAcquire : Resume → Bool
  | acquire _ => true
  | dialFailed _ => true
  | _ => false

def Resume.ofRelease : Resume → Bool
  | release => true
  | _ => false

namespace Call

def acquires : Call → Bool
  | acquire => true
  | phase1 => true
  | phase2 => true
  | testing _ _ => true
  | dialling _ => true
  | counting _ => true
  | closing resume _ => resume.ofAcquire
  | decrementing resume _ => resume.ofAcquire
  | returningToken resume _ => resume.ofAcquire
  | _ => false

def releases : Call → Bool
  | release (some _) _ => true
  | releasing _ _ => true
  | sending _ => true
  | unlocking => true
  | closing resume _ => resume.ofRelease
  | decrementing resume _ => resume.ofRelease
  | returningToken resume _ => resume.ofRelease
  | _ => false

end Call

section Borrow

variable (h : CallStep pool p l a p' l')

include h

lemma CallStep.isOpen (hopen : p.IsOpen) (hl : l.acquires = true ∨ l.releases = true) : p'.IsOpen := by
  cases h with
  | closeLocked | closed | idleClosed | toDrain | leftClosed => rcases hl with hl | hl <;> cases hl
  | _ => exact ⟨hopen.writer, hopen.closed, hopen.idleClosed⟩

lemma CallStep.acquires (hl : l.acquires = true) :
    l'.acquires = true ∨ (∃ client, l' = .returned (.acquired client)) ∨ ∃ err, l' = .returned (.failed err) := by
  cases h with
  | fresh phase client | counted client => exact .inr (.inl ⟨client, rfl⟩)
  | stopped | barred | ended | woken => exact .inr (.inr ⟨_, rfl⟩)
  | torn resume client | uncounted resume client => exact .inl hl
  | gaveBack resume client =>
    cases resume with
    | acquire phase => cases phase <;> exact .inl rfl
    | dialFailed err => exact .inr (.inr ⟨_, rfl⟩)
    | release | drain => cases hl
  | entered | taken | waiting | reserved | received | stale | refused | dialled => exact .inl rfl
  | _ => cases hl

lemma CallStep.releases (hl : l.releases = true) : l'.releases = true ∨ l' = .returned .released := by
  cases h with
  | unlocked => exact .inr rfl
  | torn resume client | uncounted resume client => exact .inl hl
  | gaveBack resume client =>
    cases resume with
    | release => exact .inl rfl
    | acquire phase | dialFailed err | drain => cases hl
  | locked | broken | kept | panicked | pushed | excess => exact .inl rfl
  | _ => cases hl

lemma CallStep.lent : (∃ client, l' = .returned (.acquired client) ∧ p'.lent = client :: p.lent) ∨
    (∀ client, l' ≠ .returned (.acquired client)) ∧ p'.lent = p.lent := by
  cases h with
  | fresh phase client | counted client => exact .inl ⟨client, rfl, rfl⟩
  | gaveBack resume client =>
    refine .inr ⟨fun c => ?_, rfl⟩
    cases resume with
    | acquire phase => cases phase <;> simp [Resume.next]
    | dialFailed err | release | drain => simp [Resume.next]
  | _ => exact .inr ⟨fun c => by simp, rfl⟩

end Borrow

/-! ### How long a call takes -/

def Resume.rank : Resume → Nat
  | acquire .first => 5
  | acquire .second => 4
  | dialFailed _ => 0
  | release => 1
  | drain => 0

/-- An upper bound of the steps that a call has left, but for those that an idle client costs it. -/
def Call.rank : Call → Nat
  | acquire => 6
  | phase1 => 5
  | phase2 => 4
  | testing .first _ => 9
  | testing .second _ => 8
  | dialling _ => 3
  | counting _ => 1
  | release _ _ => 9
  | releasing _ _ => 8
  | sending _ => 7
  | unlocking => 1
  | closing resume _ => resume.rank + 3
  | decrementing resume _ => resume.rank + 2
  | returningToken resume _ => resume.rank + 1
  | _ => 0

lemma CallStep.rank_lt (h : CallStep pool p l a p' l') (hl : l.acquires = true ∨ l.releases = true) :
    l'.rank + 5 * p'.idleConns.length < l.rank + 5 * p.idleConns.length := by
  cases h with
  | taken client idle hidle | received client idle hidle =>
    rw [hidle, List.length_cons]
    simp only [Call.rank]
    omega
  | pushed client =>
    rw [List.length_append, List.length_singleton]
    simp only [Call.rank]
    omega
  | stale phase client => cases phase <;> simp [Call.rank, Resume.rank]
  | fresh phase client => cases phase <;> simp [Call.rank]
  | gaveBack resume client =>
    cases resume with
    | acquire phase => cases phase <;> simp [Call.rank, Resume.rank, Resume.next]
    | dialFailed err | release | drain => simp [Call.rank, Resume.rank, Resume.next]
  | closeLocked | closedBefore | closed | closedTwice | idleClosed | toDrain | leftClosed | drained | finished =>
    rcases hl with hl | hl <;> cases hl
  | _ => simp [Call.rank, Resume.rank]

/-! ### Who can move -/

lemma exists_step_acquires (hopen : p.IsOpen) (hl : l.acquires = true)
    (hfree : l = .phase2 → p.sem < pool.maxOpen ∨ p.idleConns ≠ []) :
    ∃ a r, (∀ err, a ≠ .done err) ∧ step pool p l a = some r := by
  cases l with
  | acquire =>
    refine ⟨.proceed, (p, .phase1), by simp, ?_⟩
    simp [step, stepAcquire, hopen.writer, hopen.closed]
  | phase1 =>
    cases hidle : p.idleConns with
    | nil =>
      refine ⟨.proceed, (p, .phase2), by simp, ?_⟩
      simp [step, stepAcquire, hidle, hopen.idleClosed]
    | cons client idle =>
      refine ⟨.proceed, ({ p with idleConns := idle }, .testing .first client), by simp, ?_⟩
      simp [step, stepAcquire, hidle]
  | phase2 =>
    rcases hfree rfl with hsem | hidle
    · refine ⟨.token, ({ p with sem := p.sem + 1, nextConn := p.nextConn + 1 }, .dialling p.nextConn), by simp, ?_⟩
      simp [step, stepAcquire, hsem]
    · obtain ⟨client, idle, hcons⟩ := List.exists_cons_of_ne_nil hidle
      refine ⟨.receive, ({ p with idleConns := idle }, .testing .second client), by simp, ?_⟩
      simp [step, stepAcquire, hcons]
  | testing phase client =>
    refine ⟨.test (pool.idleTimeout + 1) none, (p, .closing (.acquire phase) client), by simp, ?_⟩
    simp [step, stepAcquire]
  | dialling client => exact ⟨.dial none, _, by simp, rfl⟩
  | counting client => exact ⟨.proceed, _, by simp, rfl⟩
  | closing resume client => exact ⟨.proceed, _, by simp, rfl⟩
  | decrementing resume client => exact ⟨.proceed, _, by simp, rfl⟩
  | returningToken resume client => exact ⟨.proceed, _, by simp, rfl⟩
  | _ => cases hl

lemma exists_step_releases (hopen : p.IsOpen) (hl : l.releases = true) : ∃ a r, step pool p l a = some r := by
  cases l with
  | release client err =>
    cases client with
    | none => cases hl
    | some client =>
      refine ⟨.proceed, ({ p with readers := p.readers + 1 }, .releasing client err), ?_⟩
      simp [step, stepAcquire, stepRelease, hopen.writer]
  | releasing client err =>
    cases err with
    | none =>
      refine ⟨.proceed, (p, .sending client), ?_⟩
      simp [step, stepAcquire, stepRelease, hopen.closed]
    | some err =>
      refine ⟨.proceed, (p, .closing .release client), ?_⟩
      simp [step, stepAcquire, stepRelease]
  | sending client =>
    by_cases hroom : p.idleConns.length < pool.maxIdle
    · refine ⟨.proceed, ({ p with idleConns := p.idleConns ++ [client] }, .unlocking), ?_⟩
      simp [step, stepAcquire, stepRelease, hopen.idleClosed, hroom]
    · refine ⟨.proceed, (p, .closing .release client), ?_⟩
      simp [step, stepAcquire, stepRelease, hopen.idleClosed, hroom]
  | unlocking => exact ⟨.proceed, _, rfl⟩
  | closing resume client => exact ⟨.proceed, _, rfl⟩
  | decrementing resume client => exact ⟨.proceed, _, rfl⟩
  | returningToken resume client => exact ⟨.proceed, _, rfl⟩
  | _ => cases hl

end MailBaby.Pool
