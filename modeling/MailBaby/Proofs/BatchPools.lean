import MailBaby.Proofs.BatchTotals
import MailBaby.Proofs.PoolCalls

/-!
# Batches at the connection pools

The goroutines of a batch use the pool of an account as a pool wants to be used: they give back each client
that they were lent, and give it back once.
-/

namespace MailBaby.SendBatch

open Lib Lib.Mime Smtp Sender

variable {m : MultiAccountSender} {codec : Codec} {s s' : State} {g g' : Goroutine} {key : String}
variable {data : Text} {client : Pool.Conn} {err : Option GoError} {acc : AccountSender}

/-! ### Calls of the pools -/

/-- An `Acquire` is in progress where one should be, and a `Release` where one should be. -/
def Phase.atPool : Phase → Bool
  | .acquiring _ _ l => l.acquires
  | .releasing _ _ _ l => l.releases
  | _ => true

def Thread.atPool : Thread → Bool
  | goroutine g => g.phase.atPool
  | _ => true

lemma pool_updateAccount {k : String} {f : Account → Account} (hf : ∀ a, (f a).pool = a.pool) :
    ((s.updateAccount k f).accounts key).pool = (s.accounts key).pool := by
  unfold State.updateAccount
  by_cases hkey : key = k
  · rw [hkey]
    simp only [Function.update_self, hf]
  · simp only [Function.update_of_ne hkey]

lemma pool_setPool_self (s : State) (key : String) (p : Pool.State) :
    ((s.setPool key p).accounts key).pool = p := by
  simp [State.setPool, State.updateAccount]

lemma pool_setPool_of_ne {k : String} (hkey : key ≠ k) (s : State) (p : Pool.State) :
    ((s.setPool k p).accounts key).pool = (s.accounts key).pool := by
  simp only [State.setPool, State.updateAccount, Function.update_of_ne hkey]

lemma pool_count (a : Account) (err : Option GoError) : (a.count err).pool = a.pool := by
  cases err <;> rfl

namespace Phase

def poolCall (key : String) : Phase → Multiset Pool.Call
  | acquiring j _ l => if j.key = key then {l} else 0
  | releasing j _ _ l => if j.key = key then {l} else 0
  | _ => 0

def lentTo (key : String) : Phase → Multiset Pool.Conn
  | transmitting j _ client => if j.key = key then {client} else 0
  | _ => 0

end Phase

inductive PoolEffect (pool : Pool.SmtpConnPool) (key : String) (p : Pool.State) (f f' : Phase) :
    Pool.State → Prop
  | keeps (hcall : f'.poolCall key = f.poolCall key) (hlent : f'.lentTo key = f.lentTo key) :
      PoolEffect pool key p f f' p
  | begins (hcall : f.poolCall key = 0) (hcall' : f'.poolCall key = {.acquire})
      (hlent : f'.lentTo key = f.lentTo key) : PoolEffect pool key p f f' p
  | moves (l l' : Pool.Call) (a : Pool.Action) (p' : Pool.State) (hstep : Pool.step pool p l a = some (p', l'))
      (hcall : f.poolCall key = {l})
      (hcall' : f'.poolCall key = {l'} ∨ f'.poolCall key = 0 ∧ ∃ r, l' = .returned r)
      (hlent : (p'.lent : Multiset Pool.Conn) + f.lentTo key = (p.lent : Multiset Pool.Conn) + f'.lentTo key) :
      PoolEffect pool key p f f' p'
  | givesBack (client : Pool.Conn) (err : Option GoError) (hcall : f.poolCall key = 0)
      (hcall' : f'.poolCall key = {.release (some client) err}) (hlent : f.lentTo key = {client})
      (hlent' : f'.lentTo key = 0) : PoolEffect pool key p f f' { p with lent := p.lent.erase client }

section Effect

variable {pool : Pool.SmtpConnPool} {p p' : Pool.State} {l l' : Pool.Call} {a : Pool.Action} {j : Job}

lemma poolEffect_acquired (hl : l.acquires = true)
    (hstep : Pool.step pool p l a = some (p', l')) :
    PoolEffect pool j.key p (.acquiring j data l) (acquired g j data l').phase p' ∧
      (acquired g j data l').phase.atPool = true := by
  have hborrow := Pool.callStep_of_step hstep
  have hcall : (Phase.acquiring j data l).poolCall j.key = {l} := if_pos rfl
  have hnone : (Phase.acquiring j data l).lentTo j.key = 0 := rfl
  rcases hborrow.lent with ⟨client, rfl, hlent⟩ | ⟨hnot, hlent⟩
  · refine ⟨.moves l _ a p' hstep hcall (.inr ⟨rfl, _, rfl⟩) ?_, rfl⟩
    have hlent' : (acquired g j data (.returned (.acquired client))).phase.lentTo j.key = {client} := if_pos rfl
    rw [hlent, hlent', hnone, add_zero, ← Multiset.cons_coe, ← Multiset.singleton_add, add_comm]
  · rcases hborrow.acquires hl with hl' | ⟨client, rfl⟩ | ⟨err, rfl⟩
    · have hphase : (acquired g j data l').phase = .acquiring j data l' := by
        cases l' with
        | returned r => cases hl'
        | _ => rfl
      rw [hphase]
      refine ⟨.moves l l' a p' hstep hcall (.inl (if_pos rfl)) ?_, hl'⟩
      rw [hlent]
      rfl
    · exact absurd rfl (hnot client)
    · refine ⟨.moves l _ a p' hstep hcall (.inr ⟨rfl, _, rfl⟩) ?_, rfl⟩
      rw [hlent]
      rfl

lemma poolEffect_released (hl : l.releases = true)
    (hstep : Pool.step pool p l a = some (p', l')) :
    PoolEffect pool j.key p (.releasing j client err l) (released g j client err l').phase p' ∧
      (released g j client err l').phase.atPool = true := by
  have hborrow := Pool.callStep_of_step hstep
  have hcall : (Phase.releasing j client err l).poolCall j.key = {l} := if_pos rfl
  rcases hborrow.releases hl with hl' | rfl
  · have hphase : (released g j client err l').phase = .releasing j client err l' := by
      cases l' with
      | returned r => cases hl'
      | _ => rfl
    rcases hborrow.lent with ⟨lent, rfl, -⟩ | ⟨-, hlent⟩
    · cases hl'
    · rw [hphase]
      refine ⟨.moves l l' a p' hstep hcall (.inl (if_pos rfl)) ?_, hl'⟩
      rw [hlent]
      rfl
  · rcases hborrow.lent with ⟨lent, hreturned, -⟩ | ⟨-, hlent⟩
    · cases hreturned
    · refine ⟨.moves l _ a p' hstep hcall (.inr ⟨rfl, _, rfl⟩) ?_, rfl⟩
      rw [hlent]
      rfl

lemma poolEffect_of_ne {f f' : Phase} (hcall : f.poolCall key = 0) (hcall' : f'.poolCall key = 0)
    (hlent : f.lentTo key = 0) (hlent' : f'.lentTo key = 0) : PoolEffect pool key p f f' p :=
  .keeps (hcall'.trans hcall.symm) (hlent'.trans hlent.symm)

lemma acquired_of_ne (hkey : j.key ≠ key) :
    (acquired g j data l).phase.poolCall key = 0 ∧ (acquired g j data l).phase.lentTo key = 0 := by
  unfold acquired
  split
  · exact ⟨rfl, if_neg hkey⟩
  · exact ⟨rfl, rfl⟩
  · exact ⟨if_neg hkey, rfl⟩

lemma released_of_ne (hkey : j.key ≠ key) :
    (released g j client err l).phase.poolCall key = 0 ∧ (released g j client err l).phase.lentTo key = 0 := by
  unfold released
  split
  · exact ⟨rfl, rfl⟩
  · exact ⟨if_neg hkey, rfl⟩

end Effect

lemma acc_eq_of_for {j : Job} {item : Option Email} (hfor : j.For m item)
    (hacc : m.accounts.lookup j.key = some acc) : j.acc = acc :=
  Option.some.inj (hfor.lookup_eq.symm.trans hacc)

lemma poolEffect_of_step (hacc : m.accounts.lookup key = some acc)
    (hsound : g.Sound m codec) (hat : g.phase.atPool = true) (h : GoroutineStep m codec s g g.phase s' g') :
    PoolEffect acc.pool key (s.accounts key).pool g.phase g'.phase (s'.accounts key).pool := by
  unfold Goroutine.Sound at hsound
  generalize g.phase = p at h hsound hat ⊢
  cases h with
  | acquire j data l l' b p hctx hstep =>
    by_cases hkey : j.key = key
    · subst hkey
      rw [acc_eq_of_for hsound.1 hacc] at hstep
      rw [pool_setPool_self]
      exact (poolEffect_acquired hat hstep).1
    · rw [pool_setPool_of_ne (Ne.symm hkey)]
      exact poolEffect_of_ne (if_neg hkey) (acquired_of_ne hkey).1 rfl (acquired_of_ne hkey).2
  | release j client err l l' b p hstep =>
    by_cases hkey : j.key = key
    · subst hkey
      rw [acc_eq_of_for hsound.1 hacc] at hstep
      rw [pool_setPool_self]
      exact (poolEffect_released hat hstep).1
    · rw [pool_setPool_of_ne (Ne.symm hkey)]
      exact poolEffect_of_ne (if_neg hkey) (released_of_ne hkey).1 rfl (released_of_ne hkey).2
  | delivered j data client err =>
    by_cases hkey : j.key = key
    · subst hkey
      rw [pool_setPool_self]
      exact .givesBack client err rfl (if_pos rfl) (if_pos rfl) rfl
    · rw [pool_setPool_of_ne (Ne.symm hkey)]
      exact poolEffect_of_ne rfl (if_neg hkey) (if_neg hkey) rfl
  | built j env data hbuild =>
    by_cases hkey : j.key = key
    · exact .begins rfl (if_pos hkey) rfl
    · exact poolEffect_of_ne rfl (if_neg hkey) rfl rfl
  | token j =>
    rw [pool_updateAccount]
    · exact .keeps rfl rfl
    · exact fun _ => rfl
  | counted j err =>
    rw [pool_updateAccount]
    · exact .keeps rfl rfl
    · exact fun a => pool_count a err
  | _ => exact .keeps rfl rfl

lemma isOpen_setPool (hopen : ∀ k, (s.accounts k).pool.IsOpen) {p : Pool.State} (hp : p.IsOpen) (key : String) :
    ∀ k, ((s.setPool key p).accounts k).pool.IsOpen := by
  intro k
  by_cases hkey : k = key
  · rw [hkey, pool_setPool_self]
    exact hp
  · rw [pool_setPool_of_ne hkey]
    exact hopen k

lemma isOpen_updateAccount (hopen : ∀ k, (s.accounts k).pool.IsOpen) {f : Account → Account}
    (hf : ∀ a, (f a).pool = a.pool) (key : String) : ∀ k, ((s.updateAccount key f).accounts k).pool.IsOpen := by
  intro k
  rw [pool_updateAccount hf]
  exact hopen k

lemma atPool_step (hat : g.phase.atPool = true) (hopen : ∀ k, (s.accounts k).pool.IsOpen)
    (h : GoroutineStep m codec s g g.phase s' g') :
    g'.phase.atPool = true ∧ ∀ k, (s'.accounts k).pool.IsOpen := by
  generalize g.phase = p at h hat
  cases h with
  | acquire j data l l' b p hctx hstep =>
    have hp := (Pool.callStep_of_step hstep).isOpen (hopen j.key) (.inl hat)
    exact ⟨(poolEffect_acquired hat hstep).2, isOpen_setPool hopen hp j.key⟩
  | release j client err l l' b p hstep =>
    have hp := (Pool.callStep_of_step hstep).isOpen (hopen j.key) (.inr hat)
    exact ⟨(poolEffect_released hat hstep).2, isOpen_setPool hopen hp j.key⟩
  | delivered j data client err =>
    refine ⟨rfl, isOpen_setPool hopen ?_ j.key⟩
    exact ⟨(hopen j.key).writer, (hopen j.key).closed, (hopen j.key).idleClosed⟩
  | token j =>
    refine ⟨rfl, isOpen_updateAccount hopen ?_ j.key⟩
    exact fun _ => rfl
  | counted j err => exact ⟨rfl, isOpen_updateAccount hopen (fun a => pool_count a err) j.key⟩
  | _ => exact ⟨rfl, hopen⟩

/-- The goroutines are where they should be, and no pool has been closed. -/
structure Ordered (m : MultiAccountSender) (codec : Codec) (s : State) (ls : Multiset Thread) : Prop where
  sound : ∀ l ∈ ls, l.Sound m codec
  atPool : ∀ l ∈ ls, l.atPool = true
  isOpen : ∀ key, (s.accounts key).pool.IsOpen

lemma preserves_ordered : (program m codec).Preserves (Ordered m codec) where
  call := by
    intro s rest i s' l h hcall
    have hsound := preserves_sound.call h.sound hcall
    obtain ⟨-, hcalled⟩ := callStep_of_call hcall
    cases hcalled with
    | batch emails => exact ⟨hsound, Multiset.forall_mem_cons.mpr ⟨rfl, h.atPool⟩, h.isOpen⟩
    | started id call item => exact ⟨hsound, Multiset.forall_mem_cons.mpr ⟨rfl, h.atPool⟩, h.isOpen⟩
  step := by
    intro s rest l a s' l' h hstep
    have hsound := preserves_sound.step h.sound hstep
    obtain ⟨hat, hrest⟩ := Multiset.forall_mem_cons.mp h.atPool
    obtain ⟨-, hstepped⟩ := threadStep_of_step hstep
    cases hstepped with
    | moved g g' _ hmove =>
      obtain ⟨hat', hopen⟩ := atPool_step hat h.isOpen hmove
      exact ⟨hsound, Multiset.forall_mem_cons.mpr ⟨hat', hrest⟩, hopen⟩
    | refilled k =>
      refine ⟨hsound, h.atPool, isOpen_updateAccount h.isOpen ?_ k⟩
      exact fun _ => rfl
    | returned | cancelled | full => exact ⟨hsound, Multiset.forall_mem_cons.mpr ⟨rfl, hrest⟩, h.isOpen⟩
  meet := by
    intro s rest l k s' l' k' h hmeet
    have hsound := preserves_sound.meet h.sound hmeet
    obtain ⟨-, hothers⟩ := Multiset.forall_mem_cons.mp h.atPool
    obtain ⟨-, hrest⟩ := Multiset.forall_mem_cons.mp hothers
    obtain ⟨-, hmet⟩ := meetStep_of_meet hmeet
    cases hmet with
    | handedOver =>
      exact ⟨hsound, Multiset.forall_mem_cons.mpr ⟨rfl, Multiset.forall_mem_cons.mpr ⟨rfl, hrest⟩⟩, h.isOpen⟩

/-! ### What holds of a pool -/

namespace Thread

def poolCall (key : String) : Thread → Multiset Pool.Call
  | goroutine g => g.phase.poolCall key
  | _ => 0

def lentTo (key : String) : Thread → Multiset Pool.Conn
  | goroutine g => g.phase.lentTo key
  | _ => 0

end Thread

/-- The goroutines have the clients that the pool has lent, and an invariant of the pool holds of their calls
and of those that have returned. -/
structure Borrowing (J : Pool.State → Multiset Pool.Call → Prop) (key : String) (p : Pool.State)
    (ls : Multiset Thread) : Prop where
  lent : (p.lent : Multiset Pool.Conn) = ls.bind (Thread.lentTo key)
  calls : ∃ ended : Multiset Pool.Call, (∀ l ∈ ended, ∃ r, l = .returned r) ∧
    J p (ended + ls.bind (Thread.poolCall key))

section Borrowing

variable {J : Pool.State → Multiset Pool.Call → Prop} {pool : Pool.SmtpConnPool} {p p' : Pool.State}
  {rest : Multiset Thread}

lemma borrowing_cons {l : Thread} (hcall : l.poolCall key = 0) (hlent : l.lentTo key = 0) :
    Borrowing J key p (l ::ₘ rest) ↔ Borrowing J key p rest := by
  constructor
  · intro h
    obtain ⟨ended, hended, hJ⟩ := h.calls
    refine ⟨h.lent.trans ?_, ended, hended, ?_⟩
    · rw [Multiset.cons_bind, hlent, zero_add]
    · rwa [Multiset.cons_bind, hcall, zero_add] at hJ
  · intro h
    obtain ⟨ended, hended, hJ⟩ := h.calls
    refine ⟨h.lent.trans ?_, ended, hended, ?_⟩
    · rw [Multiset.cons_bind, hlent, zero_add]
    · rwa [Multiset.cons_bind, hcall, zero_add]

lemma Borrowing.effect (hJ : (Pool.program pool).Preserves J) (h : Borrowing J key p (.goroutine g ::ₘ rest))
    (heffect : PoolEffect pool key p g.phase g'.phase p') : Borrowing J key p' (.goroutine g' ::ₘ rest) := by
  obtain ⟨ended, hended, hcalls⟩ := h.calls
  have hlent := h.lent
  rw [Multiset.cons_bind] at hlent hcalls
  simp only [Thread.poolCall, Thread.lentTo] at hlent hcalls
  cases heffect with
  | keeps hcall' hlent' =>
    refine ⟨?_, ended, hended, ?_⟩
    · rw [Multiset.cons_bind, Thread.lentTo, hlent', hlent]
    · rwa [Multiset.cons_bind, Thread.poolCall, hcall']
  | begins hcall hcall' hlent' =>
    refine ⟨?_, ended, hended, ?_⟩
    · rw [Multiset.cons_bind, Thread.lentTo, hlent', hlent]
    · rw [hcall, zero_add] at hcalls
      rw [Multiset.cons_bind, Thread.poolCall, hcall', Multiset.singleton_add, Multiset.add_cons]
      exact hJ.call (i := .acquire) hcalls rfl
  | moves l l' a p' hstep hcall hcall' hlent' =>
    rw [hcall, Multiset.singleton_add, Multiset.add_cons] at hcalls
    have hmoved := hJ.step hcalls hstep
    constructor
    · rw [Multiset.cons_bind, Thread.lentTo]
      apply add_right_cancel (b := g.phase.lentTo key)
      rw [hlent', hlent]
      abel
    · rcases hcall' with hcall' | ⟨hcall', r, rfl⟩
      · refine ⟨ended, hended, ?_⟩
        rwa [Multiset.cons_bind, Thread.poolCall, hcall', Multiset.singleton_add, Multiset.add_cons]
      · refine ⟨.returned r ::ₘ ended, Multiset.forall_mem_cons.mpr ⟨⟨r, rfl⟩, hended⟩, ?_⟩
        rwa [Multiset.cons_bind, Thread.poolCall, hcall', zero_add, Multiset.cons_add]
  | givesBack client err hcall hcall' hlent₀ hlent' =>
    rw [hlent₀, Multiset.singleton_add] at hlent
    refine ⟨?_, ended, hended, ?_⟩
    · rw [Multiset.cons_bind, Thread.lentTo, hlent', zero_add]
      change ((p.lent.erase client : List Pool.Conn) : Multiset Pool.Conn) = _
      rw [← Multiset.coe_erase, hlent, Multiset.erase_cons_head]
    · have hmem : client ∈ p.lent := by
        rw [← Multiset.mem_coe, hlent]
        exact Multiset.mem_cons_self _ _
      rw [hcall, zero_add] at hcalls
      rw [Multiset.cons_bind, Thread.poolCall, hcall', Multiset.singleton_add, Multiset.add_cons]
      exact hJ.call (i := .release (some client) err) hcalls (if_pos hmem)

lemma Borrowing.handedOver (hJ : (Pool.program pool).Preserves J) {j j' : Job} {passed : Pool.Conn} (hphase : g.phase = .releasing j client err (.sending passed))
    (hphase' : g'.phase = .acquiring j' data .phase2) (hkey : j.key = j'.key)
    (hopen : p.idleClosed = false) (h : Borrowing J key p (.goroutine g ::ₘ .goroutine g' ::ₘ rest)) :
    Borrowing J key p (.goroutine (g.goto (.releasing j client err .unlocking)) ::ₘ
      .goroutine (g'.goto (.acquiring j' data (.testing .second passed))) ::ₘ rest) := by
  obtain ⟨ended, hended, hcalls⟩ := h.calls
  have hlent := h.lent
  simp only [Multiset.cons_bind, Thread.poolCall, Thread.lentTo, hphase, hphase', Phase.poolCall, Phase.lentTo]
    at hlent hcalls
  refine ⟨?_, ended, hended, ?_⟩
  · simpa only [Multiset.cons_bind, Thread.lentTo, Goroutine.goto, Phase.lentTo] using hlent
  · simp only [Multiset.cons_bind, Thread.poolCall, Goroutine.goto, Phase.poolCall, ← hkey] at hcalls ⊢
    split_ifs at hcalls ⊢ with hj
    · have hmeet : (Pool.program pool).meet p (.sending passed) .phase2 =
          some (p, .unlocking, .testing .second passed) := if_neg (Bool.eq_false_iff.mp hopen)
      simp only [Multiset.singleton_add, Multiset.add_cons] at hcalls ⊢
      rw [Multiset.cons_swap] at hcalls ⊢
      exact hJ.meet hcalls hmeet
    · exact hcalls

end Borrowing

lemma preserves_borrowing {J : Pool.State → Multiset Pool.Call → Prop}
    (hacc : m.accounts.lookup key = some acc) (hJ : (Pool.program acc.pool).Preserves J) :
    (program m codec).Preserves fun s ls => Ordered m codec s ls ∧ Borrowing J key (s.accounts key).pool ls where
  call := by
    intro s rest i s' l h hcall
    refine ⟨preserves_ordered.call h.1 hcall, ?_⟩
    obtain ⟨-, hcalled⟩ := callStep_of_call hcall
    cases hcalled with
    | batch emails => exact (borrowing_cons rfl rfl).mpr h.2
    | started id call item => exact (borrowing_cons rfl rfl).mpr h.2
  step := by
    intro s rest l a s' l' h hstep
    refine ⟨preserves_ordered.step h.1 hstep, ?_⟩
    obtain ⟨-, hstepped⟩ := threadStep_of_step hstep
    cases hstepped with
    | moved g g' _ hmove =>
      have hsound := h.1.sound _ (Multiset.mem_cons_self _ _)
      have hat := h.1.atPool _ (Multiset.mem_cons_self _ _)
      exact h.2.effect hJ (poolEffect_of_step hacc hsound hat hmove)
    | refilled k =>
      rw [pool_updateAccount]
      · exact h.2
      · exact fun _ => rfl
    | returned | cancelled | full => exact (borrowing_cons rfl rfl).mpr ((borrowing_cons rfl rfl).mp h.2)
  meet := by
    intro s rest l k s' l' k' h hmeet
    refine ⟨preserves_ordered.meet h.1 hmeet, ?_⟩
    obtain ⟨-, hmet⟩ := meetStep_of_meet hmeet
    cases hmet with
    | handedOver g g' j j' client passed err data hphase hphase' hkey hopen =>
      exact h.2.handedOver hJ hphase hphase' hkey (h.1.isOpen key).idleClosed

end MailBaby.SendBatch
