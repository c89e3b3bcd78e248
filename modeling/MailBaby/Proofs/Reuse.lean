import MailBaby.Lib.History
import MailBaby.Proofs.Pool
import MailBaby.Sender.Account

/-!
# Who gets which connection

A pool that is built for an account has idle places whatever the account asks for, since the defaults
replace a negative number of them.
-/

namespace MailBaby.Pool

open Lib

variable {pool : SmtpConnPool} {p p' : State} {l l' k k' : Call} {a : Action} {H : Call → Action → Prop}
  {c d : System State Call} {ms : List (Move Request Action)}

def Passes (pool : SmtpConnPool) : Action → Prop
  | .test idleFor reset => ¬(pool.idleTimeout < idleFor ∨ reset.isSome)
  | _ => False

/-- A call that has neither returned a client nor dialled one. -/
def Call.emptyHanded : Call → Bool
  | counting _ => false
  | returned (.acquired _) => false
  | _ => true

lemma step_source (h : step pool p l a = some (p', l')) :
    (∃ client, l = .dialling client ∧ a = .dial none ∧ l' = .counting client ∧
      p'.dialled = client :: p.dialled) ∨
    (∃ phase client, l = .testing phase client ∧ Passes pool a ∧ l' = .returned (.acquired client) ∧
      p'.dialled = p.dialled) ∨
    (∃ client, l = .counting client ∧ a = .proceed ∧ l' = .returned (.acquired client) ∧
      p'.dialled = p.dialled) ∨
    (l.emptyHanded = true ∧ l'.emptyHanded = true ∧ a ≠ .dial none ∧ ¬Passes pool a ∧
      p'.dialled = p.dialled) := by
  cases callStep_of_step h with
  | dialled client => exact .inl ⟨client, rfl, rfl, rfl, rfl⟩
  | fresh phase client idleFor reset hfresh => exact .inr (.inl ⟨phase, client, rfl, hfresh, rfl, rfl⟩)
  | counted client => exact .inr (.inr (.inl ⟨client, rfl, rfl, rfl, rfl⟩))
  | stale phase client idleFor reset hstale =>
    exact .inr (.inr (.inr ⟨rfl, rfl, by simp, fun hpass => hpass hstale, rfl⟩))
  | gaveBack resume client =>
    refine .inr (.inr (.inr ⟨rfl, ?_, by simp, id, rfl⟩))
    rcases resume with (_ | _) | _ | _ | _ <;> rfl
  | _ => exact .inr (.inr (.inr ⟨rfl, rfl, by simp, id, rfl⟩))

/-! ### What a call has done -/

def Untouched (pool : SmtpConnPool) (H : Call → Action → Prop) : Prop :=
  ∀ k b, H k b → b ≠ .dial none ∧ ¬Passes pool b

/-- The call has dialled this client, and has taken none from the idle channel. -/
def Dialled (pool : SmtpConnPool) (H : Call → Action → Prop) (client : Conn) : Prop :=
  H (.dialling client) (.dial none) ∧ ∀ k b, H k b → ¬Passes pool b

/-- The call has taken a client from the idle channel, and has dialled none. -/
def Taken (pool : SmtpConnPool) (H : Call → Action → Prop) : Prop :=
  (∃ k b, H k b ∧ Passes pool b) ∧ ∀ k, ¬H k (.dial none)

def Fate (pool : SmtpConnPool) (H : Call → Action → Prop) : Call → Prop
  | .counting client => Dialled pool H client
  | .returned (.acquired client) => Dialled pool H client ∨ Taken pool H
  | _ => Untouched pool H

lemma fate_of_emptyHanded (h : l.emptyHanded = true) : Fate pool H l ↔ Untouched pool H := by
  cases l with
  | counting client => cases h
  | returned result =>
    cases result with
    | acquired client => cases h
    | failed err => rfl
    | released => rfl
    | closed => rfl
  | _ => rfl

lemma fate_step (hf : Fate pool H l) (h : step pool p l a = some (p', l')) :
    Fate pool (fun k b => H k b ∨ k = l ∧ b = a) l' := by
  rcases step_source h with ⟨client, rfl, rfl, rfl, -⟩ | ⟨phase, client, rfl, hpass, rfl, -⟩ |
    ⟨client, rfl, rfl, rfl, -⟩ | ⟨hl, hl', hdial, hpass, -⟩
  · refine ⟨Or.inr ⟨rfl, rfl⟩, ?_⟩
    rintro k b (hk | ⟨-, rfl⟩)
    · exact (hf k b hk).2
    · exact id
  · right
    refine ⟨⟨_, a, Or.inr ⟨rfl, rfl⟩, hpass⟩, ?_⟩
    rintro k (hk | ⟨-, rfl⟩)
    · exact (hf k _ hk).1 rfl
    · exact hpass
  · left
    refine ⟨Or.inl hf.1, ?_⟩
    rintro k b (hk | ⟨-, rfl⟩)
    · exact hf.2 k b hk
    · exact id
  · rw [fate_of_emptyHanded hl] at hf
    rw [fate_of_emptyHanded hl']
    rintro k b (hk | ⟨-, rfl⟩)
    · exact hf k b hk
    · exact ⟨hdial, hpass⟩

lemma request_source {i : Request} (h : request p i = some (p', l)) :
    l.emptyHanded = true ∧ p'.dialled = p.dialled := by
  unfold request at h
  repeat' split at h
  all_goals cases h
  all_goals exact ⟨rfl, rfl⟩

lemma handOver_source (h : handOver p l k = some (p', l', k')) :
    (l.emptyHanded = true ∧ k.emptyHanded = true ∧ l'.emptyHanded = true ∧ k'.emptyHanded = true) ∧
      p'.dialled = p.dialled := by
  unfold handOver at h
  repeat' split at h
  all_goals cases h
  exact ⟨⟨rfl, rfl, rfl, rfl⟩, rfl⟩

lemma fate_of_runs {tid : Nat} (h : (program pool).Runs {} ms c) (hl : c.threads[tid]? = some l) :
    Fate pool ((program pool).Took {} ms tid) l := by
  apply Program.thread_history _ _ _ h hl
  · intro s i s' l hcall
    rw [fate_of_emptyHanded (request_source hcall).1]
    exact fun _ _ hfalse => hfalse.elim
  · exact fate_step
  · intro H s l k s' l' k' hmeet
    obtain ⟨⟨hl, hk, hl', hk'⟩, -⟩ := handOver_source hmeet
    rw [fate_of_emptyHanded hl, fate_of_emptyHanded hk, fate_of_emptyHanded hl', fate_of_emptyHanded hk']
    exact ⟨id, id⟩

/-! ### Which call has dialled a client -/

def DialledBy (pool : SmtpConnPool) (ms : List (Move Request Action)) (tid : Nat) (client : Conn) : Prop :=
  (program pool).Took {} ms tid (.dialling client) (.dial none)

lemma next_dialled {m : Move Request Action} (h : (program pool).next c m = some d) :
    c.shared.dialled ⊆ d.shared.dialled := by
  rcases Program.next_cases h with ⟨i, s, l, rfl, hcall, hd, -⟩ |
    ⟨tid, a, l, s, l', rest, rfl, -, hstep, -, hd, -⟩ |
    ⟨tid, tid', l, k, s, l', k', rest, rfl, hmeet, -, hd, -⟩
  all_goals rw [hd]
  · rw [(request_source hcall).2]
    exact List.Subset.refl _
  · rcases step_source hstep with ⟨client, -, -, -, hs⟩ | ⟨_, _, -, -, -, hs⟩ | ⟨_, -, -, -, hs⟩ |
      ⟨-, -, -, -, hs⟩
    all_goals rw [hs]
    · exact List.subset_cons_self _ _
    all_goals exact List.Subset.refl _
  · rw [(handOver_source hmeet).2]
    exact List.Subset.refl _

lemma Accounted.not_mem_dialled {client : Conn} (h : Accounted pool c.shared c.threads)
    (hl : .dialling client ∈ c.threads) : client ∉ c.shared.dialled := by
  intro hmem
  have hdials : client ∈ (c.threads : Multiset Call).bind Call.dials :=
    Multiset.mem_bind.mpr ⟨_, Multiset.mem_coe.mpr hl, Multiset.mem_singleton_self _⟩
  exact Multiset.disjoint_left.mp (Multiset.nodup_add.mp h.used).2.2 (Multiset.mem_coe.mpr hmem) hdials

lemma dialledBy_mem {tid : Nat} {client : Conn} (h : (program pool).Runs {} ms c)
    (hd : DialledBy pool ms tid client) : client ∈ c.shared.dialled := by
  revert hd
  apply Program.runs_induction (I := fun ms c => DialledBy pool ms tid client → client ∈ c.shared.dialled) _ _ h
  · intro hd
    exact absurd hd Program.not_took_nil
  · intro ms c m d hrun ih hnext hd
    rcases (Program.took_snoc hrun).mp hd with hd | ⟨rfl, hl⟩
    · exact next_dialled hnext (ih hd)
    · obtain ⟨k, hk, hstep⟩ := Option.bind_eq_some_iff.mp hnext
      obtain ⟨r, hr, rfl⟩ := Option.map_eq_some_iff.mp hstep
      cases hl.symm.trans hk
      cases hr
      exact List.mem_cons_self

lemma dialledBy_unique {tid tid' : Nat} {client : Conn} (h : (program pool).Runs {} ms c)
    (hd : DialledBy pool ms tid client) (hd' : DialledBy pool ms tid' client) : tid = tid' := by
  revert hd hd'
  apply Program.runs_induction
    (I := fun ms _ => DialledBy pool ms tid client → DialledBy pool ms tid' client → tid = tid') _ _ h
  · intro hd
    exact absurd hd Program.not_took_nil
  · intro ms c m d hrun ih hnext hd hd'
    -- a call that is dialling the client now is not the second one to do so
    have hfirst {i j : Nat} (hi : DialledBy pool ms i client) (hj : c.threads[j]? = some (.dialling client)) :
        False := by
      have haccounted : Accounted pool c.shared c.threads := (preserves_consistent.run consistent_start hrun).2
      exact haccounted.not_mem_dialled (List.mem_of_getElem? hj) (dialledBy_mem hrun hi)
    rcases (Program.took_snoc hrun).mp hd with hd | ⟨hm, hl⟩ <;>
      rcases (Program.took_snoc hrun).mp hd' with hd' | ⟨hm', hl'⟩
    · exact ih hd hd'
    · exact (hfirst hd hl').elim
    · exact (hfirst hd' hl).elim
    · exact (Move.step.inj (hm.symm.trans hm')).1

/-- Every client that was returned was dialled by the call that returned it, and returned once. -/
structure NoReuse (pool : SmtpConnPool) (ms : List (Move Request Action)) (c : System State Call) : Prop where
  dialled : ∀ (tid : Nat) (client : Conn), c.threads[tid]? = some (Call.returned (.acquired client)) →
    DialledBy pool ms tid client
  once : ∀ (tid tid' : Nat) (client : Conn), c.threads[tid]? = some (Call.returned (.acquired client)) →
    c.threads[tid']? = some (Call.returned (.acquired client)) → tid = tid'

def NonePasses (pool : SmtpConnPool) (ms : List (Move Request Action)) : Prop :=
  ∀ tid idleFor reset, .step tid (.test idleFor reset) ∈ ms → pool.idleTimeout < idleFor ∨ reset.isSome

lemma NonePasses.not_passes {tid : Nat} (h : NonePasses pool ms) (hm : .step tid a ∈ ms) : ¬Passes pool a := by
  cases a with
  | test idleFor reset => exact not_not.mpr (h tid idleFor reset hm)
  | _ => exact id

lemma NonePasses.noReuse (h : (program pool).Runs {} ms c) (hnone : NonePasses pool ms) :
    NoReuse pool ms c := by
  have hdialled : ∀ tid client, c.threads[tid]? = some (Call.returned (.acquired client)) →
      DialledBy pool ms tid client := by
    intro tid client hl
    rcases fate_of_runs h hl with hd | ⟨⟨k, b, hk, hpass⟩, -⟩
    · exact hd.1
    · exact absurd hpass (hnone.not_passes hk.mem)
  refine ⟨hdialled, ?_⟩
  intro tid tid' client hl hl'
  exact dialledBy_unique h (hdialled tid client hl) (hdialled tid' client hl')

lemma fate_of_passes {k : Call} (hf : Fate pool H l) (hk : H k a) (hpass : Passes pool a) :
    ∃ client, l = .returned (.acquired client) ∧ ∀ k, ¬H k (.dial none) := by
  cases hl : l.emptyHanded with
  | true => exact absurd hpass (((fate_of_emptyHanded hl).mp hf) k a hk).2
  | false =>
    unfold Call.emptyHanded at hl
    split at hl
    · exact absurd hpass (hf.2 k a hk)
    · rename_i client
      refine ⟨client, rfl, ?_⟩
      rcases hf with hd | ht
      · exact absurd hpass (hd.2 k a hk)
      · exact ht.2
    · cases hl

lemma NoReuse.nonePasses (h : (program pool).Runs {} ms c) (hreuse : NoReuse pool ms c) :
    NonePasses pool ms := by
  intro tid idleFor reset hm
  by_contra hpass
  obtain ⟨k, -, -, hk, -⟩ := Program.took_of_mem h hm
  obtain ⟨l, hl⟩ : ∃ l, c.threads[tid]? = some l := ⟨_, List.getElem?_eq_getElem (hk.lt h)⟩
  have hpass' : Passes pool (.test idleFor reset) := hpass
  obtain ⟨client, rfl, hno⟩ := fate_of_passes (fate_of_runs h hl) hk hpass'
  exact hno _ (hreuse.dialled tid client hl)

lemma maxIdle_of_disabled (name : String) {cfg : Smtp.SmtpAccountConfig} (h : cfg.pool.maxIdleConns = -1) :
    (Sender.newAccountSender name cfg).pool.maxIdle = min 5 (Sender.newAccountSender name cfg).pool.maxOpen ∧
      0 < (Sender.newAccountSender name cfg).pool.maxOpen := by
  have hopen : 0 < cfg.applyDefaults.pool.maxOpenConns := by
    change 0 < Smtp.SmtpAccountConfig.orDefault cfg.pool.maxOpenConns 20
    unfold Smtp.SmtpAccountConfig.orDefault
    split <;> omega
  have hidle : cfg.applyDefaults.pool.maxIdleConns = 5 := by
    change Smtp.SmtpAccountConfig.orDefault cfg.pool.maxIdleConns 5 = 5
    rw [h]
    rfl
  unfold Sender.newAccountSender newSmtpConnPool
  simp only [hidle, if_neg (not_le.mpr hopen), OfNat.ofNat_ne_zero, if_false, Int.reduceLT]
  constructor
  · split <;> omega
  · omega

end MailBaby.Pool

namespace MailBaby.Proofs

open Lib Pool

/-- The pool of an account that disables reuse has idle places, and connections are used once exactly if
nothing that is taken from them passes the tests of `Acquire`. -/
theorem pool_no_reuse_iff (name : String) {cfg : Smtp.SmtpAccountConfig} {ms : List (Move Request Action)}
    {c : System State Call} (hdisabled : cfg.pool.maxIdleConns = -1)
    (hrun : (program (Sender.newAccountSender name cfg).pool).Runs {} ms c) :
    0 < (Sender.newAccountSender name cfg).pool.maxIdle ∧
      (NoReuse (Sender.newAccountSender name cfg).pool ms c ↔
        NonePasses (Sender.newAccountSender name cfg).pool ms) := by
  constructor
  · obtain ⟨hidle, hopen⟩ := maxIdle_of_disabled name hdisabled
    omega
  · exact ⟨NoReuse.nonePasses hrun, NonePasses.noReuse hrun⟩

theorem pool_no_reuse_iff_stale :
    let cfg : Smtp.SmtpAccountConfig := { pool := { maxIdleConns := -1 } }
    let pool := (Sender.newAccountSender "default" cfg).pool
    let ms : List (Move Request Action) :=
      [.call .acquire, .step 0 .proceed, .step 0 .proceed, .step 0 .token, .step 0 (.dial none),
        .step 0 .proceed, .call (.release (some 0) none), .step 1 .proceed, .step 1 .proceed,
        .step 1 .proceed, .step 1 .proceed, .call .acquire, .step 2 .proceed, .step 2 .proceed,
        .step 2 (.test 60000000001 none), .step 2 .proceed, .step 2 .proceed, .step 2 .proceed,
        .step 2 .proceed, .step 2 .token, .step 2 (.dial none), .step 2 .proceed]
    ∃ c, (program pool).Runs {} ms c ∧ c.threads[2]? = some (.returned (.acquired 1)) ∧
      (NoReuse pool ms c ↔ NonePasses pool ms) := by
  intro cfg pool ms
  have hrun : (program pool).Runs {} ms
      ⟨{ sem := 1, activeConns := 1, nextConn := 2, dialled := [1, 0], closedConns := [0], lent := [1] },
        [.returned (.acquired 0), .returned .released, .returned (.acquired 1)]⟩ := rfl
  exact ⟨_, hrun, rfl, (pool_no_reuse_iff "default" rfl hrun).2⟩

/-- The connection of the first borrower is handed to the second one. -/
theorem pool_connection_reused :
    ∃ (ms : List (Move Request Action)) (c : System State Call),
      let pool := (Sender.newAccountSender "default" { pool := { maxIdleConns := -1 } }).pool
      (program pool).Runs {} ms c ∧ ¬NoReuse pool ms c := by
  have hrun : (program (Sender.newAccountSender "default" { pool := { maxIdleConns := -1 } }).pool).Runs {}
      [.call .acquire, .step 0 .proceed, .step 0 .proceed, .step 0 .token, .step 0 (.dial none),
        .step 0 .proceed, .call (.release (some 0) none), .step 1 .proceed, .step 1 .proceed,
        .step 1 .proceed, .step 1 .proceed, .call .acquire, .step 2 .proceed, .step 2 .proceed,
        .step 2 (.test 0 none)]
      ⟨{ sem := 1, activeConns := 1, nextConn := 1, dialled := [0], lent := [0] },
        [.returned (.acquired 0), .returned .released, .returned (.acquired 0)]⟩ := rfl
  refine ⟨_, _, hrun, ?_⟩
  intro h
  exact absurd (h.once 0 2 0 rfl rfl) (by decide)

end MailBaby.Proofs
