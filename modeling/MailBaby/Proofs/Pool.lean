import Mathlib.Tactic.Abel
import MailBaby.Sender.Pool

/-!
# Invariants of the connection pool

Two groups of facts hold over every interleaving. The locks guard the idle channel: no client is sent once
it is closed, and after it was closed somebody empties it.
-/

namespace MailBaby.Pool

open Lib

/-! ### Locks and the idle channel -/

namespace Call

def reads : Call → Bool
  | releasing .. => true
  | sending _ => true
  | unlocking => true
  | closing .release _ => true
  | decrementing .release _ => true
  | returningToken .release _ => true
  | _ => false

def writes : Call → Bool
  | closeChecking => true
  | closingIdle => true
  | closeUnlocking _ => true
  | _ => false

def sends : Call → Bool
  | sending _ => true
  | _ => false

def closesIdle : Call → Bool
  | closingIdle => true
  | _ => false

def drains : Call → Bool
  | closeUnlocking true => true
  | draining => true
  | closing .drain _ => true
  | decrementing .drain _ => true
  | returningToken .drain _ => true
  | _ => false

def pastClose : Call → Bool
  | closeUnlocking _ => true
  | returned .closed => true
  | l => l.drains

end Call

variable {pool : SmtpConnPool} {p p' : State} {l l' : Call} {a : Action}

/-- What a step of a call can do. -/
inductive CallStep (pool : SmtpConnPool) (p : State) : Call → Action → State → Call → Prop
  | barred (hclosed : p.closed = true) : CallStep pool p .acquire .proceed p (.returned (.failed errPoolClosed))
  | entered : CallStep pool p .acquire .proceed p .phase1
  | taken (client : Conn) (idle : List Conn) (hidle : p.idleConns = client :: idle) :
      CallStep pool p .phase1 .proceed { p with idleConns := idle } (.testing .first client)
  | ended (hclosed : p.idleClosed = true) :
      CallStep pool p .phase1 .proceed p (.returned (.failed errPoolClosed))
  | waiting : CallStep pool p .phase1 .proceed p .phase2
  | reserved (hsem : p.sem < pool.maxOpen) :
      CallStep pool p .phase2 .token { p with sem := p.sem + 1, nextConn := p.nextConn + 1 } (.dialling p.nextConn)
  | received (client : Conn) (idle : List Conn) (hidle : p.idleConns = client :: idle) :
      CallStep pool p .phase2 .receive { p with idleConns := idle } (.testing .second client)
  | woken (hclosed : p.idleClosed = true) :
      CallStep pool p .phase2 .receive p (.returned (.failed errPoolClosed))
  | stopped (err : GoError) : CallStep pool p .phase2 (.done err) p (.returned (.failed err))
  | stale (phase : Phase) (client : Conn) (idleFor : Duration) (reset : Option GoError)
      (hstale : idleFor > pool.idleTimeout ∨ reset.isSome = true) :
      CallStep pool p (.testing phase client) (.test idleFor reset) p (.closing (.acquire phase) client)
  | fresh (phase : Phase) (client : Conn) (idleFor : Duration) (reset : Option GoError)
      (hfresh : ¬(idleFor > pool.idleTimeout ∨ reset.isSome = true)) :
      CallStep pool p (.testing phase client) (.test idleFor reset) { p with lent := client :: p.lent }
        (.returned (.acquired client))
  | refused (client : Conn) (err : GoError) :
      CallStep pool p (.dialling client) (.dial (some err)) { p with failedDials := p.failedDials + 1 }
        (.decrementing (.dialFailed err) client)
  | dialled (client : Conn) :
      CallStep pool p (.dialling client) (.dial none) { p with dialled := client :: p.dialled } (.counting client)
  | counted (client : Conn) :
      CallStep pool p (.counting client) .proceed
        { p with activeConns := p.activeConns + 1, lent := client :: p.lent } (.returned (.acquired client))
  | nothing (err : Option GoError) : CallStep pool p (.release none err) .proceed p (.returned .released)
  | locked (client : Conn) (err : Option GoError) (hwriter : p.writer = false) :
      CallStep pool p (.release (some client) err) .proceed { p with readers := p.readers + 1 }
        (.releasing client err)
  | broken (client : Conn) (err : Option GoError) :
      CallStep pool p (.releasing client err) .proceed p (.closing .release client)
  | kept (client : Conn) (err : Option GoError) (hopen : p.closed = false) :
      CallStep pool p (.releasing client err) .proceed p (.sending client)
  | panicked (client : Conn) (hclosed : p.idleClosed = true) :
      CallStep pool p (.sending client) .proceed { p with panicked := true } .unlocking
  | pushed (client : Conn) (hopen : p.idleClosed = false) (hroom : p.idleConns.length < pool.maxIdle) :
      CallStep pool p (.sending client) .proceed { p with idleConns := p.idleConns ++ [client] } .unlocking
  | excess (client : Conn) : CallStep pool p (.sending client) .proceed p (.closing .release client)
  | unlocked : CallStep pool p .unlocking .proceed { p with readers := p.readers - 1 } (.returned .released)
  | closeLocked (hwriter : p.writer = false) (hreaders : p.readers = 0) :
      CallStep pool p .close .proceed { p with writer := true } .closeChecking
  | closedBefore (hclosed : p.closed = true) :
      CallStep pool p .closeChecking .proceed p (.closeUnlocking false)
  | closed (hopen : p.closed = false) :
      CallStep pool p .closeChecking .proceed { p with closed := true } .closingIdle
  | closedTwice (hclosed : p.idleClosed = true) :
      CallStep pool p .closingIdle .proceed { p with panicked := true } (.closeUnlocking true)
  | idleClosed (hopen : p.idleClosed = false) :
      CallStep pool p .closingIdle .proceed { p with idleClosed := true } (.closeUnlocking true)
  | toDrain (drain : Bool) (hdrain : drain = true) :
      CallStep pool p (.closeUnlocking drain) .proceed { p with writer := false } .draining
  | leftClosed (drain : Bool) (hdrain : drain = false) :
      CallStep pool p (.closeUnlocking drain) .proceed { p with writer := false } (.returned .closed)
  | drained (client : Conn) (idle : List Conn) (hidle : p.idleConns = client :: idle) :
      CallStep pool p .draining .proceed { p with idleConns := idle } (.closing .drain client)
  | finished (hidle : p.idleConns = []) : CallStep pool p .draining .proceed p (.returned .closed)
  | torn (resume : Resume) (client : Conn) :
      CallStep pool p (.closing resume client) .proceed { p with closedConns := client :: p.closedConns }
        (.decrementing resume client)
  | uncounted (resume : Resume) (client : Conn) :
      CallStep pool p (.decrementing resume client) .proceed { p with activeConns := p.activeConns - 1 }
        (.returningToken resume client)
  | gaveBack (resume : Resume) (client : Conn) :
      CallStep pool p (.returningToken resume client) .proceed { p with sem := p.sem - 1 } resume.next

lemma callStep_of_step (h : step pool p l a = some (p', l')) : CallStep pool p l a p' l' := by
  unfold step at h
  simp only [Option.orElse_eq_orElse, Option.orElse_eq_or, Option.or_eq_some_iff] at h
  rcases h with h | ⟨-, h | ⟨-, h | ⟨-, h⟩⟩⟩
  · unfold stepAcquire at h
    repeat' split at h
    all_goals cases h
    all_goals constructor <;> assumption
  · unfold stepRelease at h
    repeat' split at h
    all_goals cases h
    all_goals constructor <;> simp_all
  · unfold stepClose at h
    repeat' split at h
    all_goals cases h
    all_goals constructor <;> simp_all
  · unfold stepTearDown at h
    split at h <;> cases h <;> constructor

/-- The facts about locks and flags, given how many calls hold the read lock, hold the write lock,
are about to send to the idle channel, are about to close it, still empty it, and know it closed. -/
structure Guards (pool : SmtpConnPool) (p : State) (reads writes sends closes drains past : Nat) :
    Prop where
  readers_eq : p.readers = reads
  writer_eq : p.writer.toNat = writes
  exclusive : p.writer = true → p.readers = 0
  no_send : p.closed = true → sends = 0
  closing_idle : closes + p.idleClosed.toNat = p.closed.toNat
  no_panic : p.panicked = false
  idle_le : p.idleConns.length ≤ pool.maxIdle
  drained : p.idleClosed = true → p.idleConns = [] ∨ 0 < drains
  past_close : 0 < past → p.idleClosed = true

def Guarded (pool : SmtpConnPool) (p : State) (calls : Multiset Call) : Prop :=
  Guards pool p (count Call.reads calls) (count Call.writes calls) (count Call.sends calls)
    (count Call.closesIdle calls) (count Call.drains calls) (count Call.pastClose calls)

lemma guarded_cons {rest : Multiset Call} : Guarded pool p (l ::ₘ rest) ↔
    Guards pool p (count Call.reads rest + l.reads.toNat) (count Call.writes rest + l.writes.toNat)
      (count Call.sends rest + l.sends.toNat) (count Call.closesIdle rest + l.closesIdle.toNat)
      (count Call.drains rest + l.drains.toNat) (count Call.pastClose rest + l.pastClose.toNat) := by
  simp only [Guarded, count_cons]

def Call.standing (l : Call) : Bool × Bool × Bool × Bool × Bool × Bool :=
  (l.reads, l.writes, l.sends, l.closesIdle, l.drains, l.pastClose)

def State.locks (p : State) : Nat × Bool × Bool × Bool × Bool :=
  (p.readers, p.writer, p.closed, p.idleClosed, p.panicked)

structure Quiet (p p' : State) (l l' : Call) : Prop where
  locks : p'.locks = p.locks
  idle : p'.idleConns <:+ p.idleConns
  standing : l'.standing = l.standing

lemma Guards.quiet {r w n k d q : Nat} (hg : Guards pool p r w n k d q) (hlocks : p'.locks = p.locks)
    (hidle : p'.idleConns <:+ p.idleConns) : Guards pool p' r w n k d q := by
  simp only [State.locks, Prod.mk.injEq] at hlocks
  obtain ⟨hr, hw, hc, hi, hp⟩ := hlocks
  constructor
  · rw [hr, hg.readers_eq]
  · rw [hw, hg.writer_eq]
  · rw [hw, hr]
    exact hg.exclusive
  · rw [hc]
    exact hg.no_send
  · rw [hi, hc, hg.closing_idle]
  · rw [hp, hg.no_panic]
  · exact hidle.length_le.trans hg.idle_le
  · rw [hi]
    intro hclosed
    rcases hg.drained hclosed with hnil | hpos
    · rw [hnil] at hidle
      exact Or.inl (List.suffix_nil.mp hidle)
    · exact Or.inr hpos
  · rw [hi]
    exact hg.past_close

lemma Guarded.quiet {rest : Multiset Call} (hg : Guarded pool p (l ::ₘ rest))
    (hq : Quiet p p' l l') : Guarded pool p' (l' ::ₘ rest) := by
  have hstanding := hq.standing
  simp only [Call.standing, Prod.mk.injEq] at hstanding
  obtain ⟨hreads, hwrites, hsends, hcloses, hdrains, hpast⟩ := hstanding
  rw [guarded_cons] at hg ⊢
  rw [hreads, hwrites, hsends, hcloses, hdrains, hpast]
  exact hg.quiet hq.locks hq.idle

lemma Guarded.idleClosed_of_sending {rest : Multiset Call} {client : Conn}
    (hg : Guarded pool p (.sending client ::ₘ rest)) : p.idleClosed = false := by
  rw [guarded_cons] at hg
  have hopen : p.closed = false := by
    by_contra hclosed
    have hnone := hg.no_send (by simpa using hclosed)
    simp [Call.sends] at hnone
  have hflags := hg.closing_idle
  rw [hopen, Bool.toNat_false] at hflags
  cases hset : p.idleClosed with
  | false => rfl
  | true =>
    rw [hset, Bool.toNat_true] at hflags
    omega

lemma Call.writes_of_closesIdle (h : l.closesIdle = true) : l.writes = true := by
  cases l <;> first | rfl | cases h

lemma Call.reads_of_sends (h : l.sends = true) : l.reads = true := by
  cases l <;> first | rfl | cases h

lemma Guarded.alone {rest : Multiset Call} (hg : Guarded pool p (l ::ₘ rest)) (hl : l.writes = true) :
    count Call.writes rest = 0 ∧ count Call.sends rest = 0 ∧ count Call.closesIdle rest = 0 := by
  have hcloses : count Call.closesIdle rest ≤ count Call.writes rest :=
    count_le fun _ => Call.writes_of_closesIdle
  have hsends : count Call.sends rest ≤ count Call.reads rest := count_le fun _ => Call.reads_of_sends
  have hle := Bool.toNat_le p.writer
  rw [guarded_cons, hl, Bool.toNat_true] at hg
  have hwrites := hg.writer_eq
  have hreads := hg.readers_eq
  have hwriter : p.writer = true := toNat_pos.mp (by omega)
  rw [hg.exclusive hwriter] at hreads
  exact ⟨by omega, by omega, by omega⟩

lemma Guarded.lock {rest : Multiset Call} (hg : Guarded pool p (.close ::ₘ rest))
    (hwriter : p.writer = false) (hreaders : p.readers = 0) :
    Guarded pool { p with writer := true } (.closeChecking ::ₘ rest) := by
  rw [guarded_cons] at hg ⊢
  have hwrites := hg.writer_eq
  rw [hwriter] at hwrites
  exact { hg with
    writer_eq := by
      simp only [Call.writes, Bool.toNat_false, Bool.toNat_true, Nat.add_zero] at hwrites ⊢
      omega
    exclusive := fun _ => hreaders }

lemma Guarded.unlock {rest : Multiset Call} {drain : Bool}
    (hg : Guarded pool p (.closeUnlocking drain ::ₘ rest)) (hreads : l.reads = false) (hwrites : l.writes = false)
    (hsends : l.sends = false) (hcloses : l.closesIdle = false) (hdrains : l.drains = drain)
    (hpast : l.pastClose = true) : Guarded pool { p with writer := false } (l ::ₘ rest) := by
  obtain ⟨hnone, -, -⟩ := hg.alone rfl
  rw [guarded_cons] at hg ⊢
  rw [hreads, hwrites, hsends, hcloses, hdrains, hpast]
  cases drain <;> exact { hg with
    writer_eq := by simp [hnone]
    exclusive := fun hfalse => by cases hfalse }

lemma Guarded.closedBefore {rest : Multiset Call} (hg : Guarded pool p (.closeChecking ::ₘ rest))
    (hclosed : p.closed = true) : Guarded pool p (.closeUnlocking false ::ₘ rest) := by
  obtain ⟨-, -, hnone⟩ := hg.alone rfl
  rw [guarded_cons] at hg ⊢
  have hflags := hg.closing_idle
  rw [hnone, hclosed] at hflags
  have hidle : p.idleClosed = true := by
    apply toNat_pos.mp
    simp only [Call.closesIdle, Bool.toNat_false, Bool.toNat_true] at hflags
    omega
  exact { hg with past_close := fun _ => hidle }

lemma Guarded.setClosed {rest : Multiset Call} (hg : Guarded pool p (.closeChecking ::ₘ rest))
    (hopen : p.closed = false) : Guarded pool { p with closed := true } (.closingIdle ::ₘ rest) := by
  obtain ⟨-, hnosend, -⟩ := hg.alone rfl
  rw [guarded_cons] at hg ⊢
  have hflags := hg.closing_idle
  rw [hopen] at hflags
  exact { hg with
    no_send := fun _ => by simp [Call.sends, hnosend]
    closing_idle := by
      simp only [Call.closesIdle, Bool.toNat_false, Bool.toNat_true] at hflags ⊢
      omega }

lemma Guarded.idleClosed_of_closingIdle {rest : Multiset Call}
    (hg : Guarded pool p (.closingIdle ::ₘ rest)) : p.idleClosed = false := by
  rw [guarded_cons] at hg
  have hflags := hg.closing_idle
  have hle := Bool.toNat_le p.closed
  simp only [Call.closesIdle, Bool.toNat_true] at hflags
  cases hset : p.idleClosed with
  | false => rfl
  | true =>
    rw [hset, Bool.toNat_true] at hflags
    omega

lemma Guarded.closeIdle {rest : Multiset Call} (hg : Guarded pool p (.closingIdle ::ₘ rest)) :
    Guarded pool { p with idleClosed := true } (.closeUnlocking true ::ₘ rest) := by
  have hopen := hg.idleClosed_of_closingIdle
  rw [guarded_cons] at hg ⊢
  have hflags := hg.closing_idle
  rw [hopen] at hflags
  exact { hg with
    closing_idle := by
      simp only [Call.closesIdle, Bool.toNat_true, Bool.toNat_false] at hflags ⊢
      omega
    drained := fun _ => Or.inr (by simp [Call.drains])
    past_close := fun _ => rfl }

lemma Guarded.step {rest : Multiset Call} (hg : Guarded pool p (l ::ₘ rest))
    (h : CallStep pool p l a p' l') : Guarded pool p' (l' ::ₘ rest) := by
  cases h with
  | taken client idle hidle | received client idle hidle | drained client idle hidle =>
    exact hg.quiet ⟨rfl, hidle ▸ List.suffix_cons client idle, rfl⟩
  | locked client err hwriter =>
    rw [guarded_cons] at hg ⊢
    exact { hg with
      readers_eq := congrArg (· + 1) hg.readers_eq
      exclusive := fun hw => absurd hw (by simp [hwriter]) }
  | kept client err hopen =>
    rw [guarded_cons] at hg ⊢
    exact { hg with no_send := fun hc => absurd hc (by simp [hopen]) }
  | panicked client hclosed => exact absurd hclosed (by simp [hg.idleClosed_of_sending])
  | pushed client hopen hroom =>
    rw [guarded_cons] at hg ⊢
    exact { hg with
      no_send := fun hc => by simpa [Call.sends] using hg.no_send hc
      idle_le := by
        rw [List.length_append]
        exact hroom
      drained := fun hc => absurd hc (by simp [hopen]) }
  | excess client =>
    rw [guarded_cons] at hg ⊢
    exact { hg with no_send := fun hc => by simpa [Call.sends] using hg.no_send hc }
  | unlocked =>
    rw [guarded_cons] at hg ⊢
    have hr := hg.readers_eq
    simp only [Call.reads, Bool.toNat_true] at hr
    exact { hg with
      readers_eq := by
        simp only [Call.reads, Bool.toNat_false, Nat.add_zero]
        omega
      exclusive := fun hw => by
        have := hg.exclusive hw
        omega }
  | closeLocked hwriter hreaders => exact hg.lock hwriter hreaders
  | closedBefore hclosed => exact hg.closedBefore hclosed
  | closed hopen => exact hg.setClosed hopen
  | closedTwice hclosed => exact absurd hclosed (by simp [hg.idleClosed_of_closingIdle])
  | idleClosed hopen => exact hg.closeIdle
  | toDrain drain hdrain => exact hg.unlock rfl rfl rfl rfl hdrain.symm rfl
  | leftClosed drain hdrain => exact hg.unlock rfl rfl rfl rfl hdrain.symm rfl
  | finished hidle =>
    rw [guarded_cons] at hg ⊢
    exact { hg with drained := fun _ => Or.inl hidle }
  | torn resume client | uncounted resume client =>
    cases resume <;> exact hg.quiet ⟨rfl, List.suffix_refl _, rfl⟩
  | gaveBack resume client =>
    cases resume with
    | acquire phase => cases phase <;> exact hg.quiet ⟨rfl, List.suffix_refl _, rfl⟩
    | dialFailed err | release | drain => exact hg.quiet ⟨rfl, List.suffix_refl _, rfl⟩
  | _ => exact hg.quiet ⟨rfl, List.suffix_refl _, rfl⟩

lemma Guarded.request {rest : Multiset Call} {i : Request} (hg : Guarded pool p rest)
    (h : request p i = some (p', l)) : Guarded pool p' (l ::ₘ rest) := by
  rw [guarded_cons]
  unfold Pool.request at h
  split at h
  · cases h
    exact hg
  · cases h
    exact hg
  · split_ifs at h
    cases h
    exact Guards.quiet hg rfl (List.suffix_refl _)
  · cases h
    exact hg

lemma Guarded.handOver {rest : Multiset Call} {k k' : Call} (hg : Guarded pool p (l ::ₘ k ::ₘ rest))
    (h : handOver p l k = some (p', l', k')) : Guarded pool p' (l' ::ₘ k' ::ₘ rest) := by
  unfold Pool.handOver at h
  split at h
  · split_ifs at h
    cases h
    simp only [Guarded, count_cons] at hg ⊢
    exact { hg with no_send := fun hc => by simpa [Call.sends] using hg.no_send hc }
  · cases h

/-! ### Where the connections are -/

namespace Call

def dials : Call → Multiset Conn
  | dialling client => {client}
  | _ => 0

def holds : Call → Multiset Conn
  | testing _ client => {client}
  | counting client => {client}
  | release (some client) _ => {client}
  | releasing client _ => {client}
  | sending client => {client}
  | _ => 0

def tearsDown : Call → Multiset Conn
  | closing _ client => {client}
  | decrementing _ client => {client}
  | returningToken _ client => {client}
  | _ => 0

def conns (l : Call) : Multiset Conn := l.dials + l.holds + l.tearsDown

def opens : Call → Multiset Conn
  | closing _ client => {client}
  | l => l.holds

end Call

def State.stored (p : State) : Multiset Conn := (p.idleConns : Multiset Conn) + (p.lent : Multiset Conn)

/-- The accounts of the pool, given the connections that exist, the open ones and those being
dialled. -/
structure Accounts (pool : SmtpConnPool) (p : State) (conns opens dials : Multiset Conn) : Prop where
  tokens : p.sem = conns.card
  bound : p.sem ≤ pool.maxOpen
  nodup : conns.Nodup
  fresh : ∀ client ∈ conns, client < p.nextConn
  balance : (p.dialled : Multiset Conn) = opens + (p.closedConns : Multiset Conn)
  used : ((p.dialled : Multiset Conn) + dials).Nodup
  dialled_lt : ∀ client ∈ p.dialled, client < p.nextConn
  dials_le : dials ≤ conns

def Accounted (pool : SmtpConnPool) (p : State) (calls : Multiset Call) : Prop :=
  Accounts pool p (p.stored + calls.bind Call.conns) (p.stored + calls.bind Call.opens)
    (calls.bind Call.dials)

def State.records (p : State) : Nat × Conn × List Conn × List Conn :=
  (p.sem, p.nextConn, p.dialled, p.closedConns)

variable {conns opens dials dials' : Multiset Conn} {client : Conn}

namespace Accounts

lemma keep (hc : Accounts pool p conns opens dials) (hsame : p'.records = p.records)
    (hdials : dials' ≤ dials) : Accounts pool p' conns opens dials' := by
  simp only [State.records, Prod.mk.injEq] at hsame
  obtain ⟨hsem, hnext, hdialled, hclosed⟩ := hsame
  constructor
  · rw [hsem, hc.tokens]
  · rw [hsem]
    exact hc.bound
  · exact hc.nodup
  · rw [hnext]
    exact hc.fresh
  · rw [hdialled, hclosed, hc.balance]
  · rw [hdialled]
    exact Multiset.nodup_of_le (add_le_add_right hdials _) hc.used
  · rw [hdialled, hnext]
    exact hc.dialled_lt
  · exact hdials.trans hc.dials_le

lemma reserve (hc : Accounts pool p conns opens dials) (hsem : p.sem < pool.maxOpen) :
    Accounts pool { p with sem := p.sem + 1, nextConn := p.nextConn + 1 }
      (p.nextConn ::ₘ conns) opens (p.nextConn ::ₘ dials) := by
  have hnew : p.nextConn ∉ conns := fun hin => Nat.lt_irrefl _ (hc.fresh _ hin)
  constructor
  · rw [Multiset.card_cons]
    exact congrArg (· + 1) hc.tokens
  · exact hsem
  · exact Multiset.nodup_cons.mpr ⟨hnew, hc.nodup⟩
  · intro client hin
    rcases Multiset.mem_cons.mp hin with rfl | hold
    · exact Nat.lt_succ_self _
    · exact Nat.lt_succ_of_lt (hc.fresh client hold)
  · exact hc.balance
  · rw [Multiset.add_cons, Multiset.nodup_cons, Multiset.mem_add, not_or]
    refine ⟨⟨fun hin => ?_, fun hin => hnew (Multiset.mem_of_le hc.dials_le hin)⟩, hc.used⟩
    exact Nat.lt_irrefl _ (hc.dialled_lt _ hin)
  · exact fun client hin => Nat.lt_succ_of_lt (hc.dialled_lt client hin)
  · exact Multiset.cons_le_cons _ hc.dials_le

lemma dialled (hc : Accounts pool p conns opens (client ::ₘ dials)) :
    Accounts pool { p with dialled := client :: p.dialled } conns (client ::ₘ opens) dials := by
  have hin : client ∈ conns := Multiset.mem_of_le hc.dials_le (Multiset.mem_cons_self _ _)
  refine ⟨hc.tokens, hc.bound, hc.nodup, hc.fresh, ?_, ?_, ?_,
    (Multiset.le_cons_self _ _).trans hc.dials_le⟩
  · rw [← Multiset.cons_coe, hc.balance, Multiset.cons_add]
  · have hused := hc.used
    rw [Multiset.add_cons, ← Multiset.cons_add] at hused
    exact hused
  · intro c hmem
    rcases List.mem_cons.mp hmem with rfl | hold
    · exact hc.fresh c hin
    · exact hc.dialled_lt c hold

lemma closed (hc : Accounts pool p conns (client ::ₘ opens) dials) :
    Accounts pool { p with closedConns := client :: p.closedConns } conns opens dials := by
  refine ⟨hc.tokens, hc.bound, hc.nodup, hc.fresh, ?_, hc.used, hc.dialled_lt, hc.dials_le⟩
  have hbal := hc.balance
  rw [Multiset.cons_add] at hbal
  rw [← Multiset.cons_coe, Multiset.add_cons]
  exact hbal

lemma returned (hc : Accounts pool p (client ::ₘ conns) opens dials) (hdials : dials ≤ conns) :
    Accounts pool { p with sem := p.sem - 1 } conns opens dials := by
  have htokens := hc.tokens
  rw [Multiset.card_cons] at htokens
  refine ⟨?_, (Nat.sub_le _ _).trans hc.bound, (Multiset.nodup_cons.mp hc.nodup).2,
    fun c hin => hc.fresh c (Multiset.mem_cons_of_mem hin), hc.balance, hc.used, hc.dialled_lt, hdials⟩
  change p.sem - 1 = conns.card
  omega

end Accounts

section Stored

lemma stored_receive {idle : List Conn} (h : p.idleConns = client :: idle) :
    { p with idleConns := idle }.stored + {client} = p.stored := by
  simp only [State.stored, h, ← Multiset.cons_coe, ← Multiset.singleton_add]
  abel

lemma stored_send : { p with idleConns := p.idleConns ++ [client] }.stored = p.stored + {client} := by
  simp only [State.stored, ← Multiset.coe_add, Multiset.coe_singleton]
  abel

lemma stored_lend : { p with lent := client :: p.lent }.stored = p.stored + {client} := by
  simp only [State.stored, ← Multiset.cons_coe, ← Multiset.singleton_add]
  abel

lemma stored_give_back (h : client ∈ p.lent) :
    { p with lent := p.lent.erase client }.stored + {client} = p.stored := by
  have herase : client ::ₘ ((p.lent.erase client : List Conn) : Multiset Conn) = p.lent :=
    Multiset.coe_eq_coe.mpr (List.perm_cons_erase h).symm
  simp only [State.stored, ← herase, ← Multiset.singleton_add]
  abel

end Stored

variable {rest : Multiset Call}

lemma accounted_cons : Accounted pool p (l ::ₘ rest) ↔
    Accounts pool p (p.stored + l.conns + rest.bind Call.conns) (p.stored + l.opens + rest.bind Call.opens)
      (l.dials + rest.bind Call.dials) := by
  simp only [Accounted, Multiset.cons_bind, add_assoc]

lemma bind_le_bind {f g : Call → Multiset Conn} (h : ∀ l, f l ≤ g l) (calls : Multiset Call) :
    calls.bind f ≤ calls.bind g := by
  induction calls using Multiset.induction_on with
  | empty => exact le_rfl
  | cons l calls ih =>
    rw [Multiset.cons_bind, Multiset.cons_bind]
    exact add_le_add (h l) ih

lemma Call.dials_le_conns (l : Call) : l.dials ≤ l.conns := by
  rw [Call.conns, add_assoc]
  exact Multiset.le_add_right _ _

lemma Call.opens_le_conns (l : Call) : l.opens ≤ l.conns := by
  cases l with
  | closing resume client => exact le_of_eq (zero_add _).symm
  | _ =>
    exact (Multiset.le_add_left _ _).trans (Multiset.le_add_right _ _)

lemma Accounted.move (hc : Accounted pool p (l ::ₘ rest))
    (hconns : p'.stored + l'.conns = p.stored + l.conns)
    (hopens : p'.stored + l'.opens = p.stored + l.opens) (hdials : l'.dials ≤ l.dials)
    (hsame : p'.records = p.records) : Accounted pool p' (l' ::ₘ rest) := by
  rw [accounted_cons] at hc ⊢
  rw [hconns, hopens]
  exact hc.keep hsame (add_le_add_left hdials _)

lemma Accounted.receive {idle : List Conn} (hc : Accounted pool p (l ::ₘ rest))
    (hidle : p.idleConns = client :: idle) (hl : l.conns = 0)
    (hl' : l'.conns = {client} ∧ l'.opens = {client} ∧ l'.dials = 0) :
    Accounted pool { p with idleConns := idle } (l' ::ₘ rest) := by
  have hopens : l.opens = 0 := Multiset.le_zero.mp (hl ▸ l.opens_le_conns)
  apply hc.move
  · rw [hl, hl'.1, add_zero]
    exact stored_receive hidle
  · rw [hopens, hl'.2.1, add_zero]
    exact stored_receive hidle
  · rw [hl'.2.2]
    exact Multiset.zero_le _
  · rfl

lemma Accounted.reserve (hc : Accounted pool p (.phase2 ::ₘ rest)) (hsem : p.sem < pool.maxOpen) :
    Accounted pool { p with sem := p.sem + 1, nextConn := p.nextConn + 1 }
      (.dialling p.nextConn ::ₘ rest) := by
  rw [accounted_cons] at hc ⊢
  have hconns : p.stored + (Call.dialling p.nextConn).conns + rest.bind Call.conns =
      p.nextConn ::ₘ (p.stored + Call.phase2.conns + rest.bind Call.conns) := by
    rw [← Multiset.singleton_add]
    simp only [Call.conns, Call.dials, Call.holds, Call.tearsDown]
    abel
  have hdials : (Call.dialling p.nextConn).dials + rest.bind Call.dials =
      p.nextConn ::ₘ (Call.phase2.dials + rest.bind Call.dials) := by
    rw [← Multiset.singleton_add]
    simp only [Call.dials, zero_add]
  change Accounts pool _ (p.stored + (Call.dialling p.nextConn).conns + rest.bind Call.conns) _ _
  rw [hconns, hdials]
  exact hc.reserve hsem

lemma Accounted.dialled (hc : Accounted pool p (.dialling client ::ₘ rest)) :
    Accounted pool { p with dialled := client :: p.dialled } (.counting client ::ₘ rest) := by
  rw [accounted_cons] at hc ⊢
  have hconns : p.stored + (Call.dialling client).conns = p.stored + (Call.counting client).conns := by
    simp only [Call.conns, Call.dials, Call.holds, Call.tearsDown, zero_add, add_zero]
  have hopens : p.stored + (Call.counting client).opens + rest.bind Call.opens =
      client ::ₘ (p.stored + (Call.dialling client).opens + rest.bind Call.opens) := by
    rw [← Multiset.singleton_add]
    simp only [Call.opens, Call.holds]
    abel
  have hdials : (Call.dialling client).dials + rest.bind Call.dials =
      client ::ₘ ((Call.counting client).dials + rest.bind Call.dials) := by
    rw [← Multiset.singleton_add]
    simp only [Call.dials, zero_add]
  rw [hconns, hdials] at hc
  change Accounts pool _ (p.stored + (Call.counting client).conns + _)
    (p.stored + (Call.counting client).opens + rest.bind Call.opens) _
  rw [hopens]
  exact hc.dialled

lemma Accounted.closed {resume : Resume} (hc : Accounted pool p (.closing resume client ::ₘ rest)) :
    Accounted pool { p with closedConns := client :: p.closedConns }
      (.decrementing resume client ::ₘ rest) := by
  rw [accounted_cons] at hc ⊢
  have hopens : p.stored + (Call.closing resume client).opens + rest.bind Call.opens =
      client ::ₘ (p.stored + (Call.decrementing resume client).opens + rest.bind Call.opens) := by
    rw [← Multiset.singleton_add]
    simp only [Call.opens, Call.holds]
    abel
  rw [hopens] at hc
  exact hc.closed

lemma Resume.next_places (resume : Resume) :
    resume.next.conns = 0 ∧ resume.next.opens = 0 ∧ resume.next.dials = 0 := by
  cases resume with
  | acquire phase => cases phase <;> exact ⟨rfl, rfl, rfl⟩
  | dialFailed err | release | drain => exact ⟨rfl, rfl, rfl⟩

lemma Accounted.returned {resume : Resume}
    (hc : Accounted pool p (.returningToken resume client ::ₘ rest)) :
    Accounted pool { p with sem := p.sem - 1 } (resume.next ::ₘ rest) := by
  rw [accounted_cons] at hc ⊢
  obtain ⟨hconns, hopens, hdials⟩ := resume.next_places
  have hplaces : p.stored + (Call.returningToken resume client).conns + rest.bind Call.conns =
      client ::ₘ (p.stored + 0 + rest.bind Call.conns) := by
    rw [← Multiset.singleton_add]
    simp only [Call.conns, Call.dials, Call.holds, Call.tearsDown]
    abel
  rw [hplaces] at hc
  rw [hconns, hopens, hdials]
  apply hc.returned
  change 0 + rest.bind Call.dials ≤ _
  rw [zero_add, add_zero]
  exact (bind_le_bind Call.dials_le_conns rest).trans (Multiset.le_add_left _ _)

lemma Accounted.step (hc : Accounted pool p (l ::ₘ rest)) (hg : Guarded pool p (l ::ₘ rest))
    (h : CallStep pool p l a p' l') : Accounted pool p' (l' ::ₘ rest) := by
  cases h with
  | taken client idle hidle | received client idle hidle | drained client idle hidle =>
    exact hc.receive hidle rfl ⟨rfl, rfl, rfl⟩
  | reserved hsem => exact hc.reserve hsem
  | stale | broken | excess =>
    refine hc.move ?_ rfl le_rfl rfl
    simp [Call.conns, Call.dials, Call.holds, Call.tearsDown]
  | fresh | counted =>
    refine hc.move ?_ ?_ le_rfl rfl
    · exact (add_zero _).trans stored_lend
    · exact (add_zero _).trans stored_lend
  | refused client err =>
    refine hc.move ?_ rfl (Multiset.zero_le _) rfl
    simp [Call.conns, Call.dials, Call.holds, Call.tearsDown, State.stored]
  | dialled client => exact hc.dialled
  | panicked client hclosed => exact absurd hclosed (by simp [hg.idleClosed_of_sending])
  | pushed client hopen hroom =>
    refine hc.move ?_ ?_ le_rfl rfl
    · simp [stored_send, Call.conns, Call.dials, Call.holds, Call.tearsDown]
    · simp [stored_send, Call.opens, Call.holds]
  | torn resume client => exact hc.closed
  | gaveBack resume client => exact hc.returned
  | _ => exact hc.move rfl rfl le_rfl rfl

lemma Accounted.request {i : Request} (hc : Accounted pool p rest)
    (h : request p i = some (p', l)) : Accounted pool p' (l ::ₘ rest) := by
  have hnone : ∀ l : Call, l.conns = 0 → l.opens = 0 → l.dials = 0 → Accounted pool p (l ::ₘ rest) := by
    intro l hconns hopens hdials
    rw [accounted_cons, hconns, hopens, hdials, add_zero, zero_add]
    exact hc
  unfold Pool.request at h
  split at h
  · cases h
    exact hnone _ rfl rfl rfl
  · cases h
    exact hnone _ rfl rfl rfl
  · split_ifs at h with hlent
    cases h
    refine (hnone .acquire rfl rfl rfl).move ?_ ?_ le_rfl rfl
    · simpa [Call.conns, Call.dials, Call.holds, Call.tearsDown] using stored_give_back hlent
    · simpa [Call.opens, Call.holds] using stored_give_back hlent
  · cases h
    exact hnone _ rfl rfl rfl

lemma Accounted.handOver {k k' : Call} (hc : Accounted pool p (l ::ₘ k ::ₘ rest))
    (h : handOver p l k = some (p', l', k')) : Accounted pool p' (l' ::ₘ k' ::ₘ rest) := by
  unfold Pool.handOver at h
  split at h
  · split_ifs at h
    cases h
    simp only [Accounted, Multiset.cons_bind, Call.conns, Call.dials, Call.holds, Call.tearsDown,
      Call.opens, zero_add, add_zero] at hc ⊢
    exact hc
  · cases h

def Consistent (pool : SmtpConnPool) (p : State) (calls : Multiset Call) : Prop :=
  Guarded pool p calls ∧ Accounted pool p calls

lemma preserves_consistent : (program pool).Preserves (Consistent pool) where
  call hc h := ⟨hc.1.request h, hc.2.request h⟩
  step hc h := ⟨hc.1.step (callStep_of_step h), hc.2.step hc.1 (callStep_of_step h)⟩
  meet hc h := ⟨hc.1.handOver h, hc.2.handOver h⟩

lemma consistent_start : Consistent pool {} 0 := by
  refine ⟨?_, ?_⟩
  · constructor <;> simp
  · constructor <;> simp [State.stored]

/-! ### The gauge -/

def Call.counted : Call → Bool
  | testing .. => true
  | release (some _) _ => true
  | releasing .. => true
  | sending _ => true
  | closing .. => true
  | decrementing .. => true
  | _ => false

def Gauged (p : State) (calls : Multiset Call) : Prop :=
  p.activeConns + p.failedDials = p.stored.card + count Call.counted calls

lemma Gauged.move (hc : Gauged p (l ::ₘ rest))
    (h : p'.activeConns + p'.failedDials + p.stored.card + l.counted.toNat =
      p.activeConns + p.failedDials + p'.stored.card + l'.counted.toNat) :
    Gauged p' (l' ::ₘ rest) := by
  unfold Gauged at hc ⊢
  rw [count_cons] at hc ⊢
  push_cast at hc ⊢
  omega

lemma card_stored (p : State) : p.stored.card = p.idleConns.length + p.lent.length := by
  simp [State.stored]

lemma Gauged.receive {idle : List Conn} (hc : Gauged p (l ::ₘ rest)) (hidle : p.idleConns = client :: idle)
    (hl : l.counted = false) (hl' : l'.counted = true) :
    Gauged { p with idleConns := idle } (l' ::ₘ rest) := by
  apply hc.move
  simp only [card_stored, hidle, List.length_cons, hl, hl', Bool.toNat_true, Bool.toNat_false]
  push_cast
  omega

lemma Gauged.step (hc : Gauged p (l ::ₘ rest)) (hg : Guarded pool p (l ::ₘ rest))
    (h : CallStep pool p l a p' l') : Gauged p' (l' ::ₘ rest) := by
  cases h with
  | taken client idle hidle | received client idle hidle | drained client idle hidle =>
    exact hc.receive hidle rfl rfl
  | fresh | refused | counted | uncounted =>
    apply hc.move
    simp only [card_stored, List.length_cons, Call.counted, Bool.toNat_true, Bool.toNat_false]
    push_cast
    omega
  | panicked client hclosed => exact absurd hclosed (by simp [hg.idleClosed_of_sending])
  | pushed client hopen hroom =>
    apply hc.move
    simp only [card_stored, List.length_append, List.length_singleton, Call.counted, Bool.toNat_true,
      Bool.toNat_false]
    push_cast
    omega
  | gaveBack resume client =>
    have hnext : resume.next.counted = false := by
      cases resume with
      | acquire phase => cases phase <;> rfl
      | dialFailed err | release | drain => rfl
    apply hc.move
    rw [hnext]
    rfl
  | _ => exact hc.move rfl

lemma Gauged.request {i : Request} (hc : Gauged p rest) (h : request p i = some (p', l)) :
    Gauged p' (l ::ₘ rest) := by
  have hstart : Gauged p (.acquire ::ₘ rest) := by
    unfold Gauged
    rw [count_cons]
    exact hc
  unfold Pool.request at h
  split at h
  · cases h
    exact hstart
  · cases h
    exact hstart.move rfl
  · split_ifs at h with hlent
    cases h
    have hpos := List.length_pos_of_mem hlent
    apply hstart.move
    simp only [card_stored, List.length_erase_of_mem hlent, Call.counted, Bool.toNat_true, Bool.toNat_false]
    push_cast
    omega
  · cases h
    exact hstart.move rfl

lemma Gauged.handOver {k k' : Call} (hc : Gauged p (l ::ₘ k ::ₘ rest))
    (h : handOver p l k = some (p', l', k')) : Gauged p' (l' ::ₘ k' ::ₘ rest) := by
  unfold Pool.handOver at h
  split at h
  · split_ifs at h
    cases h
    simp only [Gauged, count_cons, Call.counted, Bool.toNat_true, Bool.toNat_false, add_zero] at hc ⊢
    exact hc
  · cases h

lemma preserves_gauged :
    (program pool).Preserves fun p calls => Consistent pool p calls ∧ Gauged p calls where
  call hc h := ⟨preserves_consistent.call hc.1 h, hc.2.request h⟩
  step hc h := ⟨preserves_consistent.step hc.1 h, hc.2.step hc.1.1 (callStep_of_step h)⟩
  meet hc h := ⟨preserves_consistent.meet hc.1 h, hc.2.handOver h⟩

def dialFails : Move Request Action → Bool
  | .step _ (.dial (some _)) => true
  | _ => false

lemma step_failedDials (h : step pool p l a = some (p', l')) (tid : Nat) :
    p'.failedDials = p.failedDials + (dialFails (.step tid a)).toNat := by
  cases callStep_of_step h <;> rfl

lemma next_failedDials {c d : System State Call} {m : Move Request Action}
    (h : (program pool).next c m = some d) :
    d.shared.failedDials = c.shared.failedDials + (dialFails m).toNat := by
  rcases Program.next_cases h with ⟨i, s, l, rfl, hcall, hd, -⟩ |
    ⟨tid, a, l, s, l', rest, rfl, -, hstep, -, hd, -⟩ |
    ⟨tid, tid', l, k, s, l', k', rest, rfl, hmeet, -, hd, -⟩
  all_goals rw [hd]
  · change request c.shared i = _ at hcall
    unfold request at hcall
    repeat' split at hcall
    all_goals
      cases hcall
      try rfl
  · exact step_failedDials hstep tid
  · change handOver c.shared l k = _ at hmeet
    unfold handOver at hmeet
    repeat' split at hmeet
    all_goals
      cases hmeet
      try rfl

lemma run_failedDials {c d : System State Call} {ms : List (Move Request Action)}
    (h : run (program pool).next c ms = some d) :
    d.shared.failedDials = c.shared.failedDials + ms.countP dialFails := by
  induction ms generalizing c with
  | nil =>
    cases h
    rfl
  | cons m ms ih =>
    obtain ⟨e, he, hrun⟩ := run_cons h
    rw [ih hrun, next_failedDials he, List.countP_cons]
    cases dialFails m
    · rfl
    · exact Nat.add_right_comm _ _ _

/-! ### Every run -/

def Call.done : Call → Bool
  | returned _ => true
  | _ => false

section Places

variable (c : System State Call)

/-- The connections being dialled, held by a call or a borrower, idle, or being torn down. -/
def places : Multiset Conn :=
  (c.threads : Multiset Call).bind Call.dials +
  ((c.threads : Multiset Call).bind Call.holds + (c.shared.lent : Multiset Conn)) +
  (c.shared.idleConns : Multiset Conn) +
  (c.threads : Multiset Call).bind Call.tearsDown

def Open (client : Conn) : Prop := client ∈ c.shared.dialled ∧ client ∉ c.shared.closedConns

/-- The pool is as it should be, in whatever state its calls are. -/
structure Sound (pool : SmtpConnPool) : Prop where
  one_place : (places c).Nodup
  open_placed : ∀ client, Open c client → client ∈ places c
  tokens : c.shared.sem = (places c).card
  tokens_le : c.shared.sem ≤ pool.maxOpen
  idle_le : c.shared.idleConns.length ≤ pool.maxIdle
  lent_open : ∀ client ∈ c.shared.lent, Open c client
  no_panic : c.shared.panicked = false
  emptied : .returned .closed ∈ c.threads → (∀ l ∈ c.threads, l.done) → c.shared.lent = [] →
    c.shared.sem = 0 ∧ ∀ client, ¬Open c client

end Places

variable {c : System State Call}

lemma places_eq : places c = c.shared.stored + (c.threads : Multiset Call).bind Call.conns := by
  have hconns : (c.threads : Multiset Call).bind Call.conns =
      (c.threads : Multiset Call).bind Call.dials + (c.threads : Multiset Call).bind Call.holds +
        (c.threads : Multiset Call).bind Call.tearsDown := by
    rw [← Multiset.bind_add, ← Multiset.bind_add]
    rfl
  rw [hconns, places, State.stored]
  abel

lemma bind_eq_zero_of_done {f : Call → Multiset Conn} {calls : Multiset Call}
    (hf : ∀ result, f (.returned result) = 0) (h : ∀ l ∈ calls, l.done) : calls.bind f = 0 := by
  rw [Multiset.bind_congr (g := fun _ => 0), Multiset.bind_zero]
  intro l hl
  have hdone := h l hl
  cases l with
  | returned result => exact hf result
  | _ => cases hdone

lemma count_eq_zero_of_done {f : Call → Bool} {calls : Multiset Call}
    (hf : ∀ result, f (.returned result) = false) (h : ∀ l ∈ calls, l.done) : count f calls = 0 := by
  apply count_eq_zero.mpr
  intro l hl
  have hdone := h l hl
  cases l with
  | returned result => exact hf result
  | _ => cases hdone

lemma Accounted.open_iff (h : Accounted pool c.shared c.threads) (client : Conn) :
    Open c client ↔ client ∈ c.shared.stored + (c.threads : Multiset Call).bind Call.opens := by
  have hused : (c.shared.dialled : Multiset Conn).Nodup := (Multiset.nodup_add.mp h.used).1
  have hmem : client ∈ (c.shared.dialled : Multiset Conn) ↔
      client ∈ c.shared.stored + (c.threads : Multiset Call).bind Call.opens ∨
        client ∈ (c.shared.closedConns : Multiset Conn) := by
    rw [h.balance, Multiset.mem_add]
  rw [h.balance, Multiset.nodup_add] at hused
  rw [Multiset.mem_coe, Multiset.mem_coe] at hmem
  constructor
  · rintro ⟨hdialled, hclosed⟩
    exact (hmem.mp hdialled).resolve_right hclosed
  · intro hopen
    exact ⟨hmem.mpr (Or.inl hopen), fun hclosed =>
      Multiset.disjoint_left.mp hused.2.2 hopen (Multiset.mem_coe.mpr hclosed)⟩

lemma Guarded.idle_eq_nil (h : Guarded pool c.shared c.threads)
    (hclosed : .returned .closed ∈ c.threads) (hdone : ∀ l ∈ c.threads, l.done) :
    c.shared.idleConns = [] := by
  have hpast : 0 < count Call.pastClose (c.threads : Multiset Call) :=
    count_pos.mpr ⟨_, Multiset.mem_coe.mpr hclosed, rfl⟩
  have hdrains : count Call.drains (c.threads : Multiset Call) = 0 :=
    count_eq_zero_of_done (fun _ => rfl) hdone
  rcases h.drained (h.past_close hpast) with hnil | hpos
  · exact hnil
  · rw [hdrains] at hpos
    exact absurd hpos (Nat.lt_irrefl 0)

lemma Consistent.sound (h : Consistent pool c.shared c.threads) : Sound c pool := by
  obtain ⟨hguarded, haccounted⟩ := h
  refine ⟨?_, ?_, ?_, haccounted.bound, hguarded.idle_le, ?_, hguarded.no_panic, ?_⟩
  · rw [places_eq]
    exact haccounted.nodup
  · intro client hopen
    rw [places_eq]
    exact Multiset.mem_of_le (add_le_add le_rfl (bind_le_bind Call.opens_le_conns _))
      ((haccounted.open_iff client).mp hopen)
  · rw [places_eq]
    exact haccounted.tokens
  · intro client hlent
    refine (haccounted.open_iff client).mpr (Multiset.mem_add.mpr (Or.inl ?_))
    exact Multiset.mem_add.mpr (Or.inr (Multiset.mem_coe.mpr hlent))
  · intro hclosed hdone hlent
    have hstored : c.shared.stored = 0 := by
      rw [State.stored, hguarded.idle_eq_nil hclosed hdone, hlent]
      rfl
    have hconns : (c.threads : Multiset Call).bind Call.conns = 0 :=
      bind_eq_zero_of_done (fun _ => rfl) hdone
    have hopens : (c.threads : Multiset Call).bind Call.opens = 0 :=
      bind_eq_zero_of_done (fun _ => rfl) hdone
    constructor
    · rw [haccounted.tokens, hstored, hconns]
      rfl
    · intro client hopen
      rw [haccounted.open_iff, hstored, hopens] at hopen
      exact Multiset.notMem_zero client hopen

lemma Gauged.activeConns_eq (h : Gauged c.shared c.threads) (hdone : ∀ l ∈ c.threads, l.done) :
    c.shared.activeConns + c.shared.failedDials = c.shared.lent.length + c.shared.idleConns.length := by
  have hcounted : count Call.counted (c.threads : Multiset Call) = 0 :=
    count_eq_zero_of_done (fun _ => rfl) hdone
  unfold Gauged at h
  rw [hcounted, card_stored] at h
  push_cast at h
  omega

lemma gauged_start : Gauged {} 0 := rfl

end MailBaby.Pool

namespace MailBaby.Proofs

open Lib Pool

/-- In every state of every interleaving, whatever `Dial`, `Reset` and the idle test answer. -/
theorem pool_sound {cfg : SmtpAccountConfig} {ms : List (Move Request Action)}
    {c : System State Call} (hrun : (program (newSmtpConnPool cfg)).Runs {} ms c) :
    Sound c (newSmtpConnPool cfg) :=
  (preserves_consistent.run consistent_start hrun).sound

/-- One client is dialled, given back and kept idle, and a `Close` tears it down. -/
theorem pool_sound_closed :
    let cfg : SmtpAccountConfig := { pool := { maxIdleConns := 1, maxOpenConns := 1 } }
    let ms : List (Move Request Action) :=
      [.call .acquire, .step 0 .proceed, .step 0 .proceed, .step 0 .token, .step 0 (.dial none),
        .step 0 .proceed, .call (.release (some 0) none), .step 1 .proceed, .step 1 .proceed,
        .step 1 .proceed, .step 1 .proceed, .call .close, .step 2 .proceed, .step 2 .proceed,
        .step 2 .proceed, .step 2 .proceed, .step 2 .proceed, .step 2 .proceed, .step 2 .proceed,
        .step 2 .proceed, .step 2 .proceed]
    ∃ c, (program (newSmtpConnPool cfg)).Runs {} ms c ∧ .returned .closed ∈ c.threads ∧
      c.shared.dialled = [0] ∧ c.shared.sem = 0 ∧ Sound c (newSmtpConnPool cfg) := by
  intro cfg ms
  have hrun : (program (newSmtpConnPool cfg)).Runs {} ms
      ⟨{ idleClosed := true, closed := true, nextConn := 1, dialled := [0], closedConns := [0] },
        [.returned (.acquired 0), .returned .released, .returned .closed]⟩ := rfl
  exact ⟨_, hrun, by decide, rfl, rfl, pool_sound hrun⟩

/-- Between calls the gauge shows the open connections exactly when no dial has failed so far:
each failure is taken off it without having been put on. -/
theorem activeConns_exact_iff {cfg : SmtpAccountConfig} {ms : List (Move Request Action)}
    {c : System State Call} (hrun : (program (newSmtpConnPool cfg)).Runs {} ms c)
    (hdone : ∀ l ∈ c.threads, l.done) :
    c.shared.activeConns = c.shared.lent.length + c.shared.idleConns.length ↔
      ∀ m ∈ ms, dialFails m = false := by
  have hgauged : Gauged c.shared c.threads :=
    (preserves_gauged.run ⟨consistent_start, gauged_start⟩ hrun).2
  have hactive := hgauged.activeConns_eq hdone
  have hfailed : c.shared.failedDials = ms.countP dialFails := by
    rw [run_failedDials hrun]
    exact Nat.zero_add _
  have hzero : ms.countP dialFails = 0 ↔ ∀ m ∈ ms, dialFails m = false := by
    simp only [List.countP_eq_zero, Bool.not_eq_true]
  rw [← hzero, ← hfailed]
  omega

theorem activeConns_exact_iff_lent :
    let ms : List (Move Request Action) :=
      [.call .acquire, .step 0 .proceed, .step 0 .proceed, .step 0 .token, .step 0 (.dial none),
        .step 0 .proceed]
    ∃ c, (program (newSmtpConnPool {})).Runs {} ms c ∧ c.shared.lent = [0] ∧
      (c.shared.activeConns = c.shared.lent.length + c.shared.idleConns.length ↔
        ∀ m ∈ ms, dialFails m = false) := by
  intro ms
  have hrun : (program (newSmtpConnPool {})).Runs {} ms
      ⟨{ sem := 1, activeConns := 1, nextConn := 1, dialled := [0], lent := [0] },
        [.returned (.acquired 0)]⟩ := rfl
  exact ⟨_, hrun, rfl, activeConns_exact_iff hrun (by decide)⟩

theorem activeConns_negative :
    ∃ c, (program (newSmtpConnPool {})).Runs {}
        [.call .acquire, .step 0 .proceed, .step 0 .proceed, .step 0 .token,
          .step 0 (.dial (some ⟨"connection refused"⟩)), .step 0 .proceed, .step 0 .proceed] c ∧
      (∀ l ∈ c.threads, l.done) ∧ c.shared.lent = [] ∧ c.shared.idleConns = [] ∧
      c.shared.activeConns = -1 := by
  have hrun : (program (newSmtpConnPool {})).Runs {}
      [.call .acquire, .step 0 .proceed, .step 0 .proceed, .step 0 .token,
        .step 0 (.dial (some ⟨"connection refused"⟩)), .step 0 .proceed, .step 0 .proceed]
      ⟨{ activeConns := -1, nextConn := 1, failedDials := 1 },
        [.returned (.failed ⟨"sender pool: failed to dial SMTP: connection refused"⟩)]⟩ := rfl
  exact ⟨_, hrun, by decide, rfl, rfl, rfl⟩

end MailBaby.Proofs
