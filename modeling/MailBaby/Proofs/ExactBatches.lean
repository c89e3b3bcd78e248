import Mathlib.Algebra.BigOperators.Ring.Finset
import MailBaby.Proofs.Accounts
import MailBaby.Proofs.BatchProgress

/-!
# Batches are exact and bounded

Each call of `SendBatch` returns one error per email, in order, and the error says what became of the email.
-/

namespace MailBaby.SendBatch

open Lib Lib.Mime Smtp Sender

variable {m : MultiAccountSender} {codec : Codec} {c d : System State Thread} {mv : Move Request Action}
  {ms : List (Move Request Action)}

/-! ### New senders -/

section New

variable {parseAddress : String → Except GoError String} {validated filled : RangeOrder AccountEntry}
  {cfg : SmtpConfig}

lemma batchLimit_bounds (cfg : SmtpConfig) : 16 ≤ batchLimit cfg ∧ batchLimit cfg ≤ 512 := by
  unfold batchLimit minBatchConcurrency maxBatchConcurrencyUpper
  dsimp only
  split_ifs <;> omega

lemma exists_of_new (h : Sender.new parseAddress validated filled cfg = .ok m) :
    ∃ cfg', m = ⟨accountsOf filled cfg', batchLimit cfg'⟩ := by
  unfold Sender.new at h
  split at h
  · cases h
  · rename_i cfg' _
    cases h
    exact ⟨cfg', rfl⟩

lemma maxOpen_pos (name : String) (cfg : SmtpAccountConfig) : 0 < (newAccountSender name cfg).pool.maxOpen := by
  simp only [newAccountSender, Pool.newSmtpConnPool]
  split_ifs <;> omega

lemma tokens_pos (name : String) (cfg : SmtpAccountConfig) : ∀ n ∈ (newAccountSender name cfg).tokens, 0 < n := by
  intro n hn
  simp only [newAccountSender, Option.mem_def] at hn
  split_ifs at hn
  · cases hn
    decide
  · cases hn
    omega

lemma usable_of_new (h : Sender.new parseAddress validated filled cfg = .ok m) : Usable m := by
  obtain ⟨cfg', rfl⟩ := exists_of_new h
  have haccount : ∀ {key acc}, (accountsOf filled cfg').lookup key = some acc → ∃ e : AccountEntry,
      newAccountSender e.1 e.2 = acc := by
    intro key acc hacc
    rw [lookup_accountsOf] at hacc
    obtain ⟨e, -, he⟩ := Option.map_eq_some_iff.mp hacc
    exact ⟨e, he⟩
  constructor
  · exact Int.lt_of_lt_of_le (by decide) (batchLimit_bounds cfg').1
  · intro key acc hacc
    obtain ⟨e, rfl⟩ := haccount hacc
    exact maxOpen_pos e.1 e.2
  · intro key acc hacc
    obtain ⟨e, rfl⟩ := haccount hacc
    exact tokens_pos e.1 e.2

end New

/-! ### The calls of a run -/

def requested : Move Request Action → Option (List (Option Email))
  | .call (.sendBatch emails) => some emails
  | _ => none

lemma emails_next (h : (program m codec).next c mv = some d) :
    d.shared.calls.map BatchCall.emails = c.shared.calls.map BatchCall.emails ++ (requested mv).toList := by
  rcases Program.next_cases h with ⟨i, s, l, rfl, hs, rfl, -⟩ | ⟨tid, a, l, s, l', rest, rfl, -, hs, -, rfl, -⟩ |
    ⟨tid, tid', l, k, s, l', k', rest, rfl, hs, -, rfl, -⟩
  · obtain ⟨-, hcalled⟩ := callStep_of_call hs
    generalize d.shared = s' at hcalled
    cases hcalled with
    | batch emails => simp [requested]
    | started id call item =>
      simp only [requested, Option.toList_none, List.append_nil]
      apply map_modify_of
      exact fun _ => rfl
  · obtain ⟨-, hstepped⟩ := threadStep_of_step hs
    generalize d.shared = s' at hstepped
    simp only [requested, Option.toList_none, List.append_nil]
    cases hstepped with
    | returned | refilled | full => rfl
    | cancelled id results err =>
      apply map_modify_of
      exact fun _ => rfl
    | moved g g' _ hmove => exact (callEffect_of_step hmove).map_eq (fun _ _ _ => rfl) fun _ => rfl
  · obtain ⟨-, hmet⟩ := meetStep_of_meet hs
    generalize d.shared = s' at hmet
    cases hmet
    simp [requested]

lemma emails_run (h : run (program m codec).next c ms = some d) :
    d.shared.calls.map BatchCall.emails = c.shared.calls.map BatchCall.emails ++ ms.filterMap requested := by
  induction ms generalizing c with
  | nil =>
    cases h
    simp
  | cons mv ms ih =>
    obtain ⟨b, hb, hrest⟩ := run_cons h
    rw [ih hrest, emails_next hb, List.append_assoc]
    cases hrequested : requested mv with
    | none => simp [hrequested]
    | some emails => simp [hrequested]

def Crashing (emails : List (Option Email)) : Prop := ∃ email, some email ∈ emails ∧ ¬AttachmentsSafe email

lemma exists_crashing_of_next (h : Consistent m codec c) (hnext : (program m codec).next c mv = some d)
    (hcrashed : d.shared.crashed = true) : ∃ emails ∈ d.shared.calls.map BatchCall.emails, Crashing emails := by
  have hbefore := not_crashed_of_next hnext
  have hemails := emails_next hnext
  rcases Program.next_cases hnext with ⟨i, s, l, rfl, hs, rfl, -⟩ |
    ⟨tid, a, l, s, l', rest, rfl, hl, hs, -, rfl, -⟩ | ⟨tid, tid', l, k, s, l', k', rest, rfl, hs, -, rfl, -⟩
  · obtain ⟨-, hcalled⟩ := callStep_of_call hs
    generalize d.shared = s' at hcalled hcrashed
    cases hcalled <;> cases hbefore.symm.trans hcrashed
  · obtain ⟨-, hstepped⟩ := threadStep_of_step hs
    rw [hemails]
    generalize d.shared = s' at hstepped hcrashed
    cases hstepped with
    | moved g g' _ hmove =>
      have hg : .goroutine g ∈ c.threads := List.mem_of_getElem? hl
      have hsound : g.Sound m codec := h.ordered.sound _ hg
      rw [Goroutine.Sound] at hsound
      generalize g.phase = p at hmove hsound
      cases hmove with
      | crashed j env hbuild =>
        obtain ⟨call, hcall⟩ : ∃ call, c.shared.calls[g.call]? = some call :=
          ⟨_, List.getElem?_eq_getElem (h.tracked.known g hg)⟩
        have hitem := (h.tracked.tracked hcall).items g hg rfl
        refine ⟨call.emails, ?_, j.email, ?_, (buildMIME_panics_iff _ _ _ _).mp hbuild⟩
        · exact List.mem_append_left _ (List.mem_map_of_mem (List.mem_of_getElem? hcall))
        · rw [← hsound.1.item_eq]
          exact List.mem_of_getElem? hitem
      | _ => cases hbefore.symm.trans hcrashed
    | _ => cases hbefore.symm.trans hcrashed
  · obtain ⟨-, hmet⟩ := meetStep_of_meet hs
    generalize d.shared = s' at hmet hcrashed
    cases hmet
    cases hbefore.symm.trans hcrashed

lemma not_crashed (h : Consistent m codec c) (hstart : c.shared.crashed = false)
    (hrun : run (program m codec).next c ms = some d)
    (hsafe : ∀ emails ∈ d.shared.calls.map BatchCall.emails, ¬Crashing emails) : d.shared.crashed = false := by
  have hinv : Consistent m codec d ∧
      (d.shared.crashed = true → ∃ emails ∈ d.shared.calls.map BatchCall.emails, Crashing emails) := by
    refine run_invariant (I := fun c => Consistent m codec c ∧
      (c.shared.crashed = true → ∃ emails ∈ c.shared.calls.map BatchCall.emails, Crashing emails)) ?_ ⟨h, ?_⟩ hrun
    · intro a mv b ha hb
      have hrun : run (program m codec).next a [mv] = some b := by simp [run, hb]
      exact ⟨ha.1.run hrun, exists_crashing_of_next ha.1 hb⟩
    · intro hcrashed
      cases hstart.symm.trans hcrashed
  apply Bool.eq_false_iff.mpr
  intro hcrashed
  obtain ⟨emails, hmem, hcrashing⟩ := hinv.2 hcrashed
  exact hsafe emails hmem hcrashing

/-! ### Results -/

namespace Event

def succeeds : Event → Bool
  | transmitted _ _ _ none => true
  | _ => false

def borrows : Event → Bool
  | selected _ => false
  | _ => true

end Event

/-- What an error of a batch says about its email, given what was done for it. -/
structure Delivery (m : MultiAccountSender) (codec : Codec) (item : Option Email) (events : List Event)
    (result : Option GoError) : Prop where
  nil_iff : result = none ↔ events.countP Event.succeeds = 1
  own : ∀ key client call err, .transmitted key client call err ∈ events → ∃ email acc data env,
    item = some email ∧ key = target email.account ∧ m.accounts.lookup key = some acc ∧
    buildMIME env email acc.cfg.sender acc.cfg.fromName = .ok data ∧
    call = ⟨acc.envelopeFrom email, allRecipients codec email, data⟩ ∧ .acquired key client ∈ events
  paired : ∀ key client, .acquired key client ∈ events → ∃ call, events.filter Event.borrows =
    [.acquired key client, .transmitted key client call result, .released key client result]
  unpaired : (∀ key client, .acquired key client ∉ events) → events.filter Event.borrows = []
  selected : ∀ key, .selected key ∈ events → ∃ email acc, item = some email ∧ key = target email.account ∧
    m.accounts.lookup key = some acc

lemma delivery_of_failed {j : Job} {item : Option Email} (hfor : j.For m item) (err : GoError) :
    Delivery m codec item [.selected j.key] (some err) where
  nil_iff := by simp [Event.succeeds]
  own := by simp
  paired := by simp
  unpaired _ := rfl
  selected := by
    intro key hmem
    cases List.mem_singleton.mp hmem
    exact ⟨j.email, j.acc, hfor.item_eq, hfor.key_eq, hfor.lookup_eq⟩

lemma delivery_of_transmitted {j : Job} {item : Option Email} {data : Text} (hfor : j.For m item)
    (hdata : j.Built data) (client : Pool.Conn) (err : Option GoError) :
    Delivery m codec item [.selected j.key, .acquired j.key client,
      .transmitted j.key client (j.smtpCall codec data) err, .released j.key client err] err where
  nil_iff := by cases err <;> simp [Event.succeeds, List.countP_cons]
  own := by
    intro key client' call err' hmem
    obtain ⟨env, hbuild⟩ := hdata
    simp only [List.mem_cons, reduceCtorEq, Event.transmitted.injEq, List.not_mem_nil, or_false, false_or] at hmem
    obtain ⟨rfl, rfl, rfl, rfl⟩ := hmem
    exact ⟨j.email, j.acc, data, env, hfor.item_eq, hfor.key_eq, hfor.lookup_eq, hbuild, rfl, by simp⟩
  paired := by
    intro key client' hmem
    simp only [List.mem_cons, reduceCtorEq, Event.acquired.injEq, List.not_mem_nil, or_false, false_or] at hmem
    obtain ⟨rfl, rfl⟩ := hmem
    exact ⟨j.smtpCall codec data, rfl⟩
  unpaired h := absurd (by simp) (h j.key client)
  selected := by
    intro key hmem
    simp only [List.mem_cons, reduceCtorEq, Event.selected.injEq, List.not_mem_nil, or_false] at hmem
    cases hmem
    exact ⟨j.email, j.acc, hfor.item_eq, hfor.key_eq, hfor.lookup_eq⟩

lemma delivery_of_settled {item : Option Email} {events : List Event} {err : Option GoError}
    (h : Settled m codec item events err) : Delivery m codec item events err := by
  rcases h with ⟨rfl, herr⟩ | ⟨j, hfor, hends⟩
  · constructor
    case nil_iff => simp [herr]
    all_goals simp
  · cases hends with
    | failed err => exact delivery_of_failed hfor err
    | transmitted data client err hdata => exact delivery_of_transmitted hfor hdata client err

def Thread.goroutineAt (id i : Nat) : Thread → Option Goroutine
  | goroutine g => if g.call = id ∧ g.idx = i then some g else none
  | _ => none

lemma length_goroutinesAt (id i : Nat) (ls : List Thread) :
    (ls.filterMap (Thread.goroutineAt id i)).length = (ls.filterMap (Thread.indexIn id)).count i := by
  induction ls with
  | nil => rfl
  | cons l ls ih =>
    cases l with
    | goroutine g =>
      by_cases hid : g.call = id
      · by_cases hi : g.idx = i
        · simp [Thread.goroutineAt, Thread.indexIn, hid, hi, ih]
        · simp [Thread.goroutineAt, Thread.indexIn, hid, hi, ih]
      · simp [Thread.goroutineAt, Thread.indexIn, hid, ih]
    | _ => exact ih

/-- The errors that a call has returned: one for each email, in order, from the only goroutine of the email. -/
structure Returned (m : MultiAccountSender) (codec : Codec) (threads : List Thread) (id : Nat)
    (emails : List (Option Email)) (results : List (Option GoError)) : Prop where
  length_eq : results.length = emails.length
  delivery : ∀ i item, emails[i]? = some item → ∃ g err, threads.filterMap (Thread.goroutineAt id i) = [g] ∧
    results[i]? = some err ∧ Delivery m codec item g.events err

section Results

variable {id : Nat} {call : BatchCall} {g : Goroutine}

lemma exists_goroutineAt (h : CallTracked id call c.threads) {i : Nat} (hi : i < call.started) :
    ∃ g, c.threads.filterMap (Thread.goroutineAt id i) = [g] ∧ .goroutine g ∈ c.threads ∧ g.call = id ∧ g.idx = i := by
  have hcount : (c.threads.filterMap (Thread.indexIn id)).count i = 1 := by
    have hindices := h.indices
    rw [Multiset.filterMap_coe] at hindices
    rw [← Multiset.coe_count, hindices]
    exact Multiset.count_eq_one_of_mem (Multiset.nodup_range _) (Multiset.mem_range.mpr hi)
  obtain ⟨g, hg⟩ := List.length_eq_one_iff.mp ((length_goroutinesAt id i c.threads).trans hcount)
  have hmem : g ∈ c.threads.filterMap (Thread.goroutineAt id i) := by
    rw [hg]
    exact List.mem_singleton_self g
  obtain ⟨l, hl, heq⟩ := List.mem_filterMap.mp hmem
  cases l with
  | goroutine k =>
    simp only [Thread.goroutineAt] at heq
    split_ifs at heq with hk
    cases heq
    exact ⟨g, hg, hl, hk⟩
  | _ => cases heq

lemma exists_finished (h : CallTracked id call c.threads) (hwg : call.wg = 0) (hg : .goroutine g ∈ c.threads)
    (hid : g.call = id) : ∃ err, g.phase = .finished err := by
  have hruns := count_eq_zero.mp (h.wg_eq.symm.trans hwg) _ hg
  simp only [Thread.runsIn, hid, decide_true, Bool.true_and] at hruns
  cases hphase : g.phase with
  | finished err => exact ⟨err, rfl⟩
  | _ =>
    rw [hphase] at hruns
    cases hruns

lemma Consistent.returned (h : Consistent m codec c) {results : List (Option GoError)}
    (hcaller : .caller id (some results) ∈ c.threads) :
    ∃ call, c.shared.calls[id]? = some call ∧ Returned m codec c.threads id call.emails results := by
  obtain ⟨call, hcall⟩ : ∃ call, c.shared.calls[id]? = some call :=
    ⟨_, List.getElem?_eq_getElem (h.tracked.caller_lt hcaller)⟩
  have htracked := h.tracked.tracked hcall
  obtain ⟨hstarted, hwg, hresults⟩ := htracked.returned results hcaller
  refine ⟨call, hcall, ?_⟩
  constructor
  · rw [← hresults]
    exact htracked.length_eq
  · intro i item hitem
    obtain ⟨hi, -⟩ := List.getElem?_eq_some_iff.mp hitem
    rw [← hstarted] at hi
    obtain ⟨g, hgs, hg, hid, hidx⟩ := exists_goroutineAt htracked hi
    obtain ⟨err, hphase⟩ := exists_finished htracked hwg hg hid
    have hsound : g.Sound m codec := h.ordered.sound _ hg
    rw [Goroutine.Sound, hphase] at hsound
    have hown := htracked.items g hg hid
    rw [hidx, hitem] at hown
    cases hown
    refine ⟨g, err, hgs, ?_, delivery_of_settled hsound⟩
    rw [← hresults, ← hidx]
    apply htracked.stored g err hg hid
    rw [hphase]
    rfl

end Results

/-! ### Totals -/

def Thread.sent : Thread → Bool
  | goroutine g => g.phase.settled.any Option.isNone
  | _ => false

/-- `Send` has returned an error after it had chosen an account for the email. -/
def Thread.failed : Thread → Bool
  | goroutine g => g.phase.settled.any Option.isSome && g.selected.isSome
  | _ => false

def Thread.nilResults : Thread → Nat
  | caller _ (some results) => results.countP Option.isNone
  | _ => 0

lemma settled_of_sound {g : Goroutine} {err : Option GoError} (h : g.Sound m codec)
    (hsettled : g.phase.settled = some err) : Settled m codec g.item g.events err := by
  rw [Goroutine.Sound] at h
  cases hphase : g.phase with
  | storing e | leaving e | exiting e | finished e =>
    rw [hphase] at h hsettled
    cases hsettled
    exact h
  | _ =>
    rw [hphase] at hsettled
    cases hsettled

lemma sum_countedAs {g : Goroutine} (h : g.Sound m codec) (ok : Bool) :
    ∑ key ∈ m.accounts.keys.toFinset, (g.countedAs key ok).toNat =
      (g.phase.settled.any (fun err => err.isNone == ok) && g.selected.isSome).toNat := by
  cases hsettled : g.phase.settled with
  | none =>
    apply Finset.sum_eq_zero
    intro key _
    rw [countedAs_of_unsettled hsettled]
    rfl
  | some err =>
    rcases settled_of_sound h hsettled with ⟨hevents, -⟩ | ⟨j, hfor, hends⟩
    · have hselected : g.selected = none := by
        rw [Goroutine.selected, hevents]
        rfl
      rw [hselected, Option.isSome_none, Bool.and_false]
      apply Finset.sum_eq_zero
      intro key _
      rw [countedAs_of_unselected hevents]
      rfl
    · have hselected := selected_of_ends hends
      have hmem : j.key ∈ m.accounts.keys.toFinset := by
        rw [List.mem_toFinset, ← AList.mem_keys, ← AList.lookup_isSome, hfor.lookup_eq]
        rfl
      rw [Finset.sum_eq_single_of_mem j.key hmem]
      · simp [Goroutine.countedAs, hsettled, hselected]
      · intro key _ hne
        simp [Goroutine.countedAs, hsettled, hselected, hne.symm]

lemma Consistent.total_eq (h : Consistent m codec c) (key : String) (ok : Bool) :
    (c.shared.accounts key).total ok = count (Thread.countedAs key ok) c.threads := by
  have htotal := h.totals key ok
  apply Int.natCast_inj.mp
  rw [htotal, count_eq_sum, Nat.cast_multiset_sum, Multiset.map_map]
  rfl

lemma Consistent.sum_total (h : Consistent m codec c) (ok : Bool) {f : Thread → Bool}
    (hf : ∀ l, l.Sound m codec → ∑ key ∈ m.accounts.keys.toFinset, (l.countedAs key ok).toNat = (f l).toNat) :
    ∑ key ∈ m.accounts.keys.toFinset, (c.shared.accounts key).total ok = count f c.threads := by
  calc ∑ key ∈ m.accounts.keys.toFinset, (c.shared.accounts key).total ok
      = ∑ key ∈ m.accounts.keys.toFinset,
          ((c.threads : Multiset Thread).map fun l => (l.countedAs key ok).toNat).sum := by
        apply Finset.sum_congr rfl
        intro key _
        rw [h.total_eq, count_eq_sum]
    _ = ((c.threads : Multiset Thread).map fun l =>
          ∑ key ∈ m.accounts.keys.toFinset, (l.countedAs key ok).toNat).sum :=
        Multiset.sum_map_sum_map _ _
    _ = count f c.threads := by
        rw [count_eq_sum]
        congr 1
        apply Multiset.map_congr rfl
        intro l hl
        exact hf l (h.ordered.sound l hl)

lemma sum_countedAs_sent {l : Thread} (h : l.Sound m codec) :
    ∑ key ∈ m.accounts.keys.toFinset, (l.countedAs key true).toNat = l.sent.toNat := by
  cases l with
  | goroutine g =>
    refine (sum_countedAs h true).trans (congrArg Bool.toNat ?_)
    change (g.phase.settled.any _ && _) = g.phase.settled.any _
    cases hsettled : g.phase.settled with
    | none => rfl
    | some err =>
      cases err with
      | some e => rfl
      | none =>
        -- without an error there was an account
        rcases settled_of_sound h hsettled with ⟨-, herr⟩ | ⟨j, -, hends⟩
        · exact absurd rfl herr
        · rw [selected_of_ends hends]
          rfl
  | _ => exact Finset.sum_const_zero

lemma sum_countedAs_failed {l : Thread} (h : l.Sound m codec) :
    ∑ key ∈ m.accounts.keys.toFinset, (l.countedAs key false).toNat = l.failed.toNat := by
  cases l with
  | goroutine g =>
    refine (sum_countedAs h false).trans (congrArg (fun b => (b && g.selected.isSome).toNat) ?_)
    cases g.phase.settled with
    | none => rfl
    | some err => cases err <;> rfl
  | _ => exact Finset.sum_const_zero

/-! ### No call in progress -/

/-- What is left when all calls have returned. -/
structure Settles (m : MultiAccountSender) (c : System State Thread) : Prop where
  free : c.shared.batchSem = 0
  sent : ∑ key ∈ m.accounts.keys.toFinset, (c.shared.accounts key).totalSent = (c.threads.map Thread.nilResults).sum
  failed : ∑ key ∈ m.accounts.keys.toFinset, (c.shared.accounts key).totalFailed = c.threads.countP Thread.failed

section Rest

variable {id : Nat} {call : BatchCall}

lemma exists_returned (h : Consistent m codec c) (hrest : ∀ id, .caller id none ∉ c.threads)
    (hcall : c.shared.calls[id]? = some call) : .caller id (some call.errorsList) ∈ c.threads ∧
      call.started = call.emails.length ∧ call.wg = 0 := by
  obtain ⟨hlt, -⟩ := List.getElem?_eq_some_iff.mp hcall
  have hmem : id ∈ (c.threads : Multiset Thread).filterMap Thread.callerId := by
    rw [h.tracked.callers]
    exact Multiset.mem_range.mpr hlt
  obtain ⟨l, hl, hid⟩ := (Multiset.mem_filterMap _ _).mp hmem
  cases l with
  | caller i results =>
    cases hid
    cases results with
    | none => exact absurd hl (hrest id)
    | some results =>
      obtain ⟨hstarted, hwg, rfl⟩ := (h.tracked.tracked hcall).returned results hl
      exact ⟨hl, hstarted, hwg⟩
  | _ => cases hid

lemma exists_finished_of_rest (h : Consistent m codec c) (hrest : ∀ id, .caller id none ∉ c.threads)
    {g : Goroutine} (hg : .goroutine g ∈ c.threads) : ∃ err, g.phase = .finished err := by
  have hcall := List.getElem?_eq_getElem (h.tracked.known g hg)
  exact exists_finished (h.tracked.tracked hcall) (exists_returned h hrest hcall).2.2 hg rfl

def Thread.sentIn (id : Nat) : Thread → Bool
  | goroutine g => decide (g.call = id) && g.phase.settled.any Option.isNone
  | _ => false

lemma count_sentIn (h : Consistent m codec c) (hrest : ∀ id, .caller id none ∉ c.threads)
    (hcall : c.shared.calls[id]? = some call) :
    count (Thread.sentIn id) c.threads = call.errorsList.countP Option.isNone := by
  have htracked := h.tracked.tracked hcall
  obtain ⟨-, hstarted, -⟩ := exists_returned h hrest hcall
  have hshare : ∀ l ∈ (c.threads : Multiset Thread), (l.sentIn id).toNat =
      ((l.indexIn id).map fun i => (call.errorsList[i]?.any Option.isNone).toNat).getD 0 := by
    intro l hl
    cases l with
    | goroutine g =>
      by_cases hid : g.call = id
      · obtain ⟨err, hphase⟩ := exists_finished_of_rest h hrest hl
        have hstored := htracked.stored g err hl hid (by rw [hphase]; rfl)
        simp [Thread.sentIn, Thread.indexIn, hid, hphase, hstored, Phase.settled, Phase.stored]
      · simp [Thread.sentIn, Thread.indexIn, hid]
    | _ => rfl
  rw [count_eq_sum, sum_map_filterMap hshare, htracked.indices, hstarted, ← htracked.length_eq, sum_range_any]

lemma sum_sentIn (h : Consistent m codec c) {l : Thread} (hl : l ∈ c.threads) :
    ∑ id ∈ Finset.range c.shared.calls.length, (l.sentIn id).toNat = l.sent.toNat := by
  cases l with
  | goroutine g =>
    rw [Finset.sum_eq_single_of_mem g.call (Finset.mem_range.mpr (h.tracked.known g hl))]
    · simp [Thread.sentIn, Thread.sent]
    · intro id _ hne
      simp [Thread.sentIn, hne.symm]
  | _ => exact Finset.sum_const_zero

lemma count_sent (h : Consistent m codec c) (hrest : ∀ id, .caller id none ∉ c.threads) :
    count Thread.sent c.threads = (c.threads.map Thread.nilResults).sum := by
  have hshare : ∀ l ∈ (c.threads : Multiset Thread),
      l.nilResults = (l.callerId.map fun id => count (Thread.sentIn id) c.threads).getD 0 := by
    intro l hl
    cases l with
    | caller id results =>
      have hcall := List.getElem?_eq_getElem (h.tracked.caller_lt hl)
      cases results with
      | none => exact absurd hl (hrest id)
      | some results =>
        have hcount := count_sentIn h hrest hcall
        rw [((h.tracked.tracked hcall).returned results hl).2.2] at hcount
        exact hcount.symm
    | _ => rfl
  calc count Thread.sent c.threads
      = ((c.threads : Multiset Thread).map fun l =>
          ∑ id ∈ Finset.range c.shared.calls.length, (l.sentIn id).toNat).sum := by
        rw [count_eq_sum]
        congr 1
        apply Multiset.map_congr rfl
        intro l hl
        exact (sum_sentIn h hl).symm
    _ = ∑ id ∈ Finset.range c.shared.calls.length,
          ((c.threads : Multiset Thread).map fun l => (l.sentIn id).toNat).sum :=
        Multiset.sum_map_sum_map _ _
    _ = ((Multiset.range c.shared.calls.length).map fun id => count (Thread.sentIn id) c.threads).sum := by
        apply Finset.sum_congr rfl
        intro id _
        rw [count_eq_sum]
    _ = ((c.threads : Multiset Thread).map Thread.nilResults).sum := by
        rw [sum_map_filterMap hshare, h.tracked.callers]
    _ = (c.threads.map Thread.nilResults).sum := by rw [Multiset.map_coe, Multiset.sum_coe]

lemma Consistent.settles (h : Consistent m codec c) (hrest : ∀ id, .caller id none ∉ c.threads) : Settles m c where
  free := by
    rw [h.slots, count_eq_zero]
    intro l hl
    cases l with
    | goroutine g =>
      obtain ⟨err, hphase⟩ := exists_finished_of_rest h hrest hl
      simp only [Thread.holdsSlot, hphase, Phase.holdsSlot]
    | _ => rfl
  sent := (h.sum_total true fun _ => sum_countedAs_sent).trans (count_sent h hrest)
  failed := (h.sum_total false fun _ => sum_countedAs_failed).trans (count_coe _)

end Rest

/-! ### Batches -/

def Thread.inSend : Thread → Bool
  | goroutine g => g.phase.inSend
  | _ => false

lemma rank_start : rank m (start m).shared (start m).threads = 0 := by
  have hthreads : (((start m).threads : Multiset Thread).map Thread.rank).sum = 0 := by
    apply Multiset.sum_eq_zero
    intro n hn
    obtain ⟨l, hl, rfl⟩ := Multiset.mem_map.mp hn
    exact start_threads (P := fun l => l.rank = 0) (fun _ => rfl) l hl
  have hidle : (start m).shared.idle m = 0 := Finset.sum_eq_zero fun _ _ => rfl
  rw [rank, hthreads, hidle]
  rfl

/-- What holds after a run in which these batches were handed to `SendBatch`. -/
structure Exact (m : MultiAccountSender) (codec : Codec) (batches : List (List (Option Email)))
    (c : System State Thread) : Prop where
  callers : (c.threads.filterMap Thread.callerId).Perm (List.range batches.length)
  returned : ∀ id results, .caller id (some results) ∈ c.threads →
    ∃ emails, batches[id]? = some emails ∧ Returned m codec c.threads id emails results
  bounded : (c.threads.countP Thread.inSend : Int) ≤ m.batchSem
  proceeds : ∀ id, .caller id none ∈ c.threads → CanProceed m codec c
  settles : (∀ id, .caller id none ∉ c.threads) → Settles m c

lemma Consistent.exact (h : Consistent m codec c) (husable : Usable m) (hcrashed : c.shared.crashed = false)
    {batches : List (List (Option Email))} (hbatches : c.shared.calls.map BatchCall.emails = batches) :
    Exact m codec batches c where
  callers := by
    rw [← hbatches, List.length_map, ← Multiset.coe_eq_coe, ← Multiset.filterMap_coe, h.tracked.callers]
    rfl
  returned := by
    intro id results hcaller
    obtain ⟨call, hcall, hreturned⟩ := h.returned hcaller
    refine ⟨call.emails, ?_, hreturned⟩
    rw [← hbatches, List.getElem?_map, hcall]
    rfl
  bounded := by
    refine le_trans ?_ h.bound
    rw [h.slots, ← count_coe]
    apply Int.ofNat_le.mpr
    apply count_le
    intro l hl
    cases l with
    | goroutine g => exact Phase.holdsSlot_of_inSend hl
    | _ => cases hl
  proceeds := fun _ hcaller => h.canProceed husable hcrashed hcaller
  settles := h.settles

end MailBaby.SendBatch

namespace MailBaby.Proofs

open Lib Lib.Mime Smtp Sender SendBatch

/-- Batches are exact and bounded, and all their calls return: until then there is always a step to take, and
the steps of a run are bounded by the emails that were handed over. -/
theorem batches_exact {parseAddress : String → Except GoError String} {validated filled : RangeOrder AccountEntry}
    {cfg : SmtpConfig} {m : MultiAccountSender} (hnew : Sender.new parseAddress validated filled cfg = .ok m)
    (codec : Codec) (ms : List (Move Request Action))
    (hattachments : ∀ emails ∈ ms.filterMap requested, ∀ email, some email ∈ emails → none ∉ email.attachments)
    {c : System State Thread} (hrun : run (program m codec).next (start m) ms = some c) :
    16 ≤ m.batchSem ∧ m.batchSem ≤ 512 ∧ Exact m codec (ms.filterMap requested) c ∧
      ms.countP effective ≤ (ms.map cost).sum := by
  obtain ⟨cfg', hm⟩ := exists_of_new hnew
  obtain ⟨hlo, hhi⟩ := batchLimit_bounds cfg'
  have hlimit : m.batchSem = batchLimit cfg' := by rw [hm]
  rw [← hlimit] at hlo hhi
  have hstart : Consistent m codec (start m) := consistent_start (Int.le_trans (by decide) hlo)
  have hbatches : c.shared.calls.map BatchCall.emails = ms.filterMap requested := emails_run hrun
  have hcrashed : c.shared.crashed = false := by
    apply not_crashed hstart rfl hrun
    rw [hbatches]
    rintro emails hemails ⟨email, hemail, hcrash⟩
    exact hcrash (.inl (hattachments emails hemails email hemail))
  have hsteps := rank_run hstart.ordered hrun hcrashed
  rw [rank_start] at hsteps
  exact ⟨hlo, hhi, (hstart.run hrun).exact (usable_of_new hnew) hcrashed hbatches, by omega⟩

def opsSender : MultiAccountSender :=
  ⟨accountsOf .stored opsConfig.applyDefaults, batchLimit opsConfig.applyDefaults⟩

def steps (tid : Nat) (actions : List Action) : List (Move Request Action) := actions.map (.step tid)

/-- Thread 0 sends a batch of a nil email, which thread 1 refuses, and another one, which thread 2 transmits over
a new connection. -/
def halfSent : List (Move Request Action) :=
  [.call (.sendBatch [none, some (emailFrom "ann@example.org")]), .call (.start 0), .call (.start 0)] ++
    steps 1 [.proceed, .proceed, .proceed, .proceed, .proceed] ++
    steps 2 [.proceed, .proceed, .check plainEnv, .build mimeEnv, .pool .proceed, .pool .proceed, .pool .token,
      .pool (.dial none), .pool .proceed, .deliver none, .pool .proceed, .pool .proceed, .pool .proceed,
      .pool .proceed, .proceed, .proceed, .proceed, .proceed] ++
    steps 0 [.proceed]

def returnedBy : Thread → Option (List (Option GoError))
  | .caller _ results => results
  | _ => none

theorem batches_exact_half_sent :
    ∃ c, run (program opsSender mailCodec).next (start opsSender) halfSent = some c ∧
      c.threads.filterMap returnedBy = [[some errNilEmail, none]] ∧
      16 ≤ opsSender.batchSem ∧ opsSender.batchSem ≤ 512 ∧
      Exact opsSender mailCodec [[none, some (emailFrom "ann@example.org")]] c ∧
      halfSent.countP effective ≤ (halfSent.map cost).sum := by
  have hvalid : opsConfig.validate readAddress .stored = (none, opsConfig.applyDefaults) :=
    SmtpConfig.validate_eq_none (by decide +kernel) (by decide +kernel) _
  have hnew : Sender.new readAddress .stored .stored opsConfig = .ok opsSender :=
    Accounts.new_of_accepted (SmtpConfig.accepted_of_validate hvalid) .stored .stored
  have hreturns : (run (program opsSender mailCodec).next (start opsSender) halfSent).map
      (fun c => c.threads.filterMap returnedBy) = some [[some errNilEmail, none]] := by decide +kernel
  obtain ⟨c, hrun, hresults⟩ := Option.map_eq_some_iff.mp hreturns
  have hrequested : halfSent.filterMap requested = [[none, some (emailFrom "ann@example.org")]] := rfl
  have hattachments : ∀ emails ∈ halfSent.filterMap requested, ∀ email, some email ∈ emails →
      none ∉ email.attachments := by
    rw [hrequested]
    simp [emailFrom]
  obtain ⟨hlo, hhi, hexact, hsteps⟩ := batches_exact hnew mailCodec halfSent hattachments hrun
  rw [hrequested] at hexact
  exact ⟨c, hrun, hresults, hlo, hhi, hexact, hsteps⟩

/-- However batches interleave, the clients that goroutines send over are open, no client is in two places, and
the account keeps to its limits. -/
theorem batches_share_no_client {m : MultiAccountSender} (hsem : 0 ≤ m.batchSem) (codec : Codec)
    (ms : List (Move Request Action)) {c : System State Thread}
    (hrun : run (program m codec).next (start m) ms = some c) {key : String} {acc : AccountSender}
    (hacc : m.accounts.lookup key = some acc) :
    let pool := (c.shared.accounts key).pool
    let used := (c.threads : Multiset Thread).bind (Thread.lentTo key)
    ((pool.idleConns : Multiset Pool.Conn) + used).Nodup ∧
      pool.idleConns.length + used.card ≤ acc.pool.maxOpen ∧ pool.idleConns.length ≤ acc.pool.maxIdle ∧
      (∀ client ∈ used, client ∈ pool.dialled ∧ client ∉ pool.closedConns) ∧ pool.panicked = false := by
  obtain ⟨hlent, ended, -, hguarded, haccounted⟩ := ((consistent_start hsem).run hrun).borrowing hacc
  intro pool used
  have hstored : pool.stored = (pool.idleConns : Multiset Pool.Conn) + used := by rw [Pool.State.stored, hlent]
  have htokens := haccounted.tokens
  have hbound := haccounted.bound
  rw [hstored, Multiset.card_add, Multiset.card_add, Multiset.coe_card] at htokens
  refine ⟨?_, by omega, hguarded.idle_le, ?_, hguarded.no_panic⟩
  · rw [← hstored]
    exact (Multiset.nodup_add.mp haccounted.nodup).1
  · intro client hclient
    obtain ⟨calls, hcalls⟩ := Quot.exists_rep (ended + (c.threads : Multiset Thread).bind (Thread.poolCall key))
    have hconsistent : Pool.Consistent acc.pool pool (ended + _) := ⟨hguarded, haccounted⟩
    rw [← hcalls] at hconsistent
    have hsound : Pool.Sound ⟨pool, calls⟩ acc.pool := Pool.Consistent.sound hconsistent
    exact hsound.lent_open client (Multiset.mem_coe.mp (hlent ▸ hclient))

theorem batches_share_no_client_sending :
    ∃ c acc, run (program opsSender mailCodec).next (start opsSender) (halfSent.take 17) = some c ∧
      opsSender.accounts.lookup "default" = some acc ∧ (c.shared.accounts "default").pool.lent = [0] ∧
      (c.shared.accounts "default").pool.idleConns.length ≤ acc.pool.maxIdle := by
  have hlent : (run (program opsSender mailCodec).next (start opsSender) (halfSent.take 17)).map
      (fun c => (c.shared.accounts "default").pool.lent) = some [0] := by decide +kernel
  obtain ⟨c, hrun, hlent⟩ := Option.map_eq_some_iff.mp hlent
  have hacc : (opsSender.accounts.lookup "default").isSome = true := by decide +kernel
  obtain ⟨acc, hacc⟩ := Option.isSome_iff_exists.mp hacc
  exact ⟨c, acc, hrun, hacc, hlent, (batches_share_no_client (by decide +kernel) mailCodec _ hrun hacc).2.2.1⟩

end MailBaby.Proofs
