import Mathlib.Data.Multiset.Range
import MailBaby.Proofs.BatchSteps

/-!
# The calls of a batch sender

A slot of the semaphore is in use for each goroutine between its entry and its exit.
-/

namespace MailBaby.SendBatch

open Lib Lib.Mime Smtp Sender

variable {m : MultiAccountSender} {codec : Codec} {s s' : State} {g g' : Goroutine}

/-! ### Slots -/

namespace Phase

def holdsSlot : Phase → Bool
  | entering => false
  | refused _ => false
  | exiting _ => false
  | finished _ => false
  | _ => true

def inSend : Phase → Bool
  | storing _ => false
  | leaving _ => false
  | p => p.holdsSlot

def stored : Phase → Option (Option GoError)
  | leaving err => some err
  | exiting err => some err
  | finished err => some err
  | _ => none

def running : Phase → Bool
  | finished _ => false
  | _ => true

lemma holdsSlot_of_inSend {p : Phase} (h : p.inSend = true) : p.holdsSlot = true := by
  cases p with
  | storing err => rfl
  | leaving err => rfl
  | _ => exact h

end Phase

lemma phase_acquired (g : Goroutine) (j : Job) (data : Text) (l : Pool.Call) :
    (acquired g j data l).phase.holdsSlot = true ∧ (acquired g j data l).phase.stored = none ∧
      (acquired g j data l).phase.running = true := by
  unfold acquired
  split <;> exact ⟨rfl, rfl, rfl⟩

lemma phase_released (g : Goroutine) (j : Job) (client : Pool.Conn) (err : Option GoError) (l : Pool.Call) :
    (released g j client err l).phase.holdsSlot = true ∧ (released g j client err l).phase.stored = none ∧
      (released g j client err l).phase.running = true := by
  unfold released
  split <;> exact ⟨rfl, rfl, rfl⟩

lemma slots_step (h : GoroutineStep m codec s g g.phase s' g') :
    s'.batchSem + g.phase.holdsSlot.toNat = s.batchSem + g'.phase.holdsSlot.toNat ∧
      ((s.batchSem : Int) ≤ m.batchSem → (s'.batchSem : Int) ≤ m.batchSem) := by
  generalize g.phase = p at h ⊢
  cases h with
  | entered hroom =>
    refine ⟨rfl, fun _ => ?_⟩
    push_cast
    omega
  | left err hslot =>
    refine ⟨?_, fun hle => ?_⟩
    · change s.batchSem - 1 + 1 = s.batchSem + 0
      omega
    · change ((s.batchSem - 1 : Nat) : Int) ≤ m.batchSem
      omega
  | acquire j data l l' =>
    rw [(phase_acquired g j data l').1]
    exact ⟨rfl, id⟩
  | release j client err l l' =>
    rw [(phase_released g j client err l').1]
    exact ⟨rfl, id⟩
  | _ => exact ⟨rfl, id⟩

def Thread.holdsSlot : Thread → Bool
  | goroutine g => g.phase.holdsSlot
  | _ => false

lemma preserves_slots : (program m codec).Preserves fun s ls =>
    s.batchSem = count Thread.holdsSlot ls ∧ (s.batchSem : Int) ≤ m.batchSem where
  call := by
    intro s rest i s' l h hcall
    obtain ⟨-, hcall⟩ := callStep_of_call hcall
    cases hcall with
    | batch emails => exact ⟨h.1.trans (count_cons_of_false rfl).symm, h.2⟩
    | started id call item => exact ⟨h.1.trans (count_cons_of_false rfl).symm, h.2⟩
  step := by
    intro s rest l a s' l' h hstep
    obtain ⟨-, hstep⟩ := threadStep_of_step hstep
    simp only [count_cons] at h ⊢
    cases hstep with
    | moved g g' _ hmove =>
      obtain ⟨hslots, hbound⟩ := slots_step hmove
      refine ⟨?_, hbound h.2⟩
      have hcount := h.1
      simp only [Thread.holdsSlot] at hcount ⊢
      omega
    | returned id call | cancelled id results err | refilled key | full key => exact h
  meet := by
    intro s rest l k s' l' k' h hmeet
    obtain ⟨-, hmeet⟩ := meetStep_of_meet hmeet
    cases hmeet with
    | handedOver g g' j j' client passed err data hphase hphase' =>
      simp only [count_cons, Thread.holdsSlot, hphase, hphase', Goroutine.goto] at h ⊢
      exact h

/-! ### Calls -/

namespace Thread

def indexIn (id : Nat) : Thread → Option Nat
  | goroutine g => if g.call = id then some g.idx else none
  | _ => none

def runsIn (id : Nat) : Thread → Bool
  | goroutine g => decide (g.call = id) && g.phase.running
  | _ => false

def concerns (id : Nat) : Thread → Bool
  | caller i _ => decide (i = id)
  | goroutine g => decide (g.call = id)
  | limiter _ => false

def callerId : Thread → Option Nat
  | caller id _ => some id
  | _ => none

end Thread

structure CallTracked (id : Nat) (call : BatchCall) (ls : Multiset Thread) : Prop where
  length_eq : call.errorsList.length = call.emails.length
  indices : ls.filterMap (Thread.indexIn id) = Multiset.range call.started
  wg_eq : call.wg = count (Thread.runsIn id) ls
  items : ∀ g, .goroutine g ∈ ls → g.call = id → call.emails[g.idx]? = some g.item
  stored : ∀ g err, .goroutine g ∈ ls → g.call = id → g.phase.stored = some err →
    call.errorsList[g.idx]? = some err
  returned : ∀ results, .caller id (some results) ∈ ls →
    call.started = call.emails.length ∧ call.wg = 0 ∧ call.errorsList = results

section Tracked

variable {id : Nat} {call : BatchCall} {l l' : Thread} {rest : Multiset Thread}

lemma CallTracked.congr {ls ls' : Multiset Thread} (h : CallTracked id call ls)
    (hindices : ls'.filterMap (Thread.indexIn id) = ls.filterMap (Thread.indexIn id))
    (hruns : count (Thread.runsIn id) ls' = count (Thread.runsIn id) ls)
    (hmem : ∀ l : Thread, l.concerns id = true → l ∈ ls' → l ∈ ls) : CallTracked id call ls' where
  length_eq := h.length_eq
  indices := hindices.trans h.indices
  wg_eq := h.wg_eq.trans hruns.symm
  items := fun g hg hid => h.items g (hmem _ (decide_eq_true hid) hg) hid
  stored := fun g err hg hid => h.stored g err (hmem _ (decide_eq_true hid) hg) hid
  returned := fun results hcaller => h.returned results (hmem _ (decide_eq_true rfl) hcaller)

lemma callTracked_cons_of_not (h : l.concerns id = false) :
    CallTracked id call (l ::ₘ rest) ↔ CallTracked id call rest := by
  have hindex : l.indexIn id = none := by
    cases l with
    | goroutine g => exact if_neg (of_decide_eq_false h)
    | caller i results => rfl
    | limiter key => rfl
  have hruns : l.runsIn id = false := by
    cases l with
    | goroutine g => simp [Thread.runsIn, of_decide_eq_false h]
    | caller i results => rfl
    | limiter key => rfl
  constructor
  · intro ht
    apply ht.congr (Multiset.filterMap_cons_none l rest hindex).symm (count_cons_of_false hruns).symm
    exact fun _ _ => Multiset.mem_cons_of_mem
  · intro ht
    apply ht.congr (Multiset.filterMap_cons_none l rest hindex) (count_cons_of_false hruns)
    intro k hk hmem
    rcases Multiset.mem_cons.mp hmem with rfl | hmem
    · exact absurd hk (Bool.eq_false_iff.mp h)
    · exact hmem

lemma CallTracked.not_returned (h : CallTracked id call (.goroutine g ::ₘ rest)) (hid : g.call = id)
    (hrunning : g.phase.running = true) {results : List (Option GoError)} :
    .caller id (some results) ∉ Thread.goroutine g ::ₘ rest := by
  intro hmem
  have hwg := h.wg_eq.symm.trans (h.returned results hmem).2.1
  rw [count_cons_eq_zero] at hwg
  simp [Thread.runsIn, hid, hrunning] at hwg

lemma CallTracked.idx_ne (h : CallTracked id call (.goroutine g ::ₘ rest)) (hid : g.call = id)
    (hmem : .goroutine g' ∈ rest) (hid' : g'.call = id) : g.idx ≠ g'.idx := by
  intro heq
  have hnodup : ((Thread.goroutine g ::ₘ rest).filterMap (Thread.indexIn id)).Nodup := by
    rw [h.indices]
    exact Multiset.nodup_range _
  have hindex : (Thread.goroutine g).indexIn id = some g.idx := if_pos hid
  rw [Multiset.filterMap_cons_some _ _ _ hindex, Multiset.nodup_cons] at hnodup
  apply hnodup.1
  rw [Multiset.mem_filterMap]
  exact ⟨_, hmem, (if_pos hid').trans (congrArg some heq.symm)⟩

structure Goroutine.Same (g g' : Goroutine) : Prop where
  call_eq : g'.call = g.call
  idx_eq : g'.idx = g.idx
  item_eq : g'.item = g.item

lemma CallTracked.moved {call' : BatchCall} (ht : CallTracked id call (.goroutine g ::ₘ rest)) (h : g.Same g')
    (hid : g.call = id) (hemails : call'.emails = call.emails) (hstarted : call'.started = call.started)
    (hlength : call'.errorsList.length = call.errorsList.length)
    (hwg : call'.wg + g.phase.running.toNat = call.wg + g'.phase.running.toNat)
    (hothers : ∀ i, g.idx ≠ i → call'.errorsList[i]? = call.errorsList[i]?)
    (hown : ∀ err, g'.phase.stored = some err → call'.errorsList[g.idx]? = some err)
    (hreturned : g.phase.running = true ∨ call' = call) : CallTracked id call' (.goroutine g' ::ₘ rest) where
  length_eq := by rw [hlength, hemails, ht.length_eq]
  indices := by
    have hindex : (Thread.goroutine g').indexIn id = (Thread.goroutine g).indexIn id := by
      simp only [Thread.indexIn, h.call_eq, h.idx_eq]
    rw [Multiset.filterMap_cons, hindex, ← Multiset.filterMap_cons, ht.indices, hstarted]
  wg_eq := by
    have hcount := ht.wg_eq
    rw [count_cons] at hcount ⊢
    simp only [Thread.runsIn, h.call_eq, hid, decide_true, Bool.true_and] at hcount ⊢
    omega
  items := by
    intro k hmem hk
    rw [hemails]
    rcases Multiset.mem_cons.mp hmem with heq | hmem
    · cases heq
      rw [h.idx_eq, h.item_eq]
      exact ht.items g (Multiset.mem_cons_self _ _) hid
    · exact ht.items k (Multiset.mem_cons_of_mem hmem) hk
  stored := by
    intro k err hmem hk hstored
    rcases Multiset.mem_cons.mp hmem with heq | hmem
    · cases heq
      rw [h.idx_eq]
      exact hown err hstored
    · rw [hothers k.idx (ht.idx_ne hid hmem hk)]
      exact ht.stored k err (Multiset.mem_cons_of_mem hmem) hk hstored
  returned := by
    intro results hmem
    rcases Multiset.mem_cons.mp hmem with heq | hmem
    · cases heq
    · rcases hreturned with hrunning | rfl
      · exact absurd (Multiset.mem_cons_of_mem hmem) (ht.not_returned hid hrunning)
      · exact ht.returned results (Multiset.mem_cons_of_mem hmem)

end Tracked

inductive CallEffect (g g' : Goroutine) (calls : List BatchCall) : List BatchCall → Prop
  | keeps (hstored : g'.phase.stored = g.phase.stored) (hrunning : g'.phase.running = g.phase.running) :
      CallEffect g g' calls calls
  | stores (err : Option GoError) (hstored : g'.phase.stored = some err) (hrunning : g.phase.running = true)
      (hrunning' : g'.phase.running = true) : CallEffect g g' calls (calls.modify g.call (.store g.idx err))
  | ends (hstored : g'.phase.stored = g.phase.stored) (hrunning : g.phase.running = true)
      (hrunning' : g'.phase.running = false) : CallEffect g g' calls (calls.modify g.call .done)

lemma same_goto (g : Goroutine) (phase : Phase) : g.Same (g.goto phase) := ⟨rfl, rfl, rfl⟩

lemma same_of_step {p : Phase} (h : GoroutineStep m codec s g p s' g') : g.Same g' := by
  cases h with
  | acquire j data l l' =>
    unfold acquired
    split <;> exact ⟨rfl, rfl, rfl⟩
  | release j client err l l' =>
    unfold released
    split <;> exact ⟨rfl, rfl, rfl⟩
  | _ => exact ⟨rfl, rfl, rfl⟩

lemma callEffect_of_step (h : GoroutineStep m codec s g g.phase s' g') : CallEffect g g' s.calls s'.calls := by
  generalize hp : g.phase = p at h
  cases h with
  | gaveUp err => exact .stores (some err) rfl (by rw [hp]; rfl) rfl
  | stored err => exact .stores err rfl (by rw [hp]; rfl) rfl
  | exited err => exact .ends (by rw [hp]; rfl) (by rw [hp]; rfl) rfl
  | acquire j data l l' =>
    obtain ⟨-, hstored, hrunning⟩ := phase_acquired g j data l'
    apply CallEffect.keeps <;> rw [hp]
    · exact hstored
    · exact hrunning
  | release j client err l l' =>
    obtain ⟨-, hstored, hrunning⟩ := phase_released g j client err l'
    apply CallEffect.keeps <;> rw [hp]
    · exact hstored
    · exact hrunning
  | _ => apply CallEffect.keeps <;> rw [hp] <;> rfl

structure Tracked (calls : List BatchCall) (ls : Multiset Thread) : Prop where
  tracked : ∀ {id : Nat} {call : BatchCall}, calls[id]? = some call → CallTracked id call ls
  known : ∀ g, .goroutine g ∈ ls → g.call < calls.length
  callers : ls.filterMap Thread.callerId = Multiset.range calls.length

section Run

variable {calls calls' : List BatchCall} {rest : Multiset Thread}

lemma getElem?_modify_cases {f : BatchCall → BatchCall} {id i : Nat} {call' : BatchCall}
    (h : (calls.modify i f)[id]? = some call') :
    ∃ call, calls[id]? = some call ∧ (i = id ∧ call' = f call ∨ i ≠ id ∧ call' = call) := by
  rw [List.getElem?_modify] at h
  obtain ⟨call, hcall, heq⟩ := Option.map_eq_some_iff.mp h
  refine ⟨call, hcall, ?_⟩
  split_ifs at heq with hi
  · exact .inl ⟨hi, heq.symm⟩
  · exact .inr ⟨hi, heq.symm⟩

lemma CallTracked.effect {id : Nat} {call' : BatchCall}
    (h : ∀ {call}, calls[id]? = some call → CallTracked id call (.goroutine g ::ₘ rest)) (hsame : g.Same g')
    (hid : g.call = id) (heffect : CallEffect g g' calls calls') (hcall' : calls'[id]? = some call') :
    CallTracked id call' (.goroutine g' ::ₘ rest) := by
  cases heffect with
  | keeps hstored hrunning =>
    have ht := h hcall'
    apply ht.moved hsame hid
    case hemails | hstarted | hlength => rfl
    case hwg => rw [hrunning]
    case hothers => exact fun _ _ => rfl
    case hreturned => exact .inr rfl
    case hown =>
      exact fun err herr => ht.stored g err (Multiset.mem_cons_self _ _) hid (hstored.symm.trans herr)
  | stores err hstored hrunning hrunning' =>
    obtain ⟨call, hcall, ⟨-, rfl⟩ | ⟨hne, -⟩⟩ := getElem?_modify_cases hcall'
    · have ht := h hcall
      have hidx : g.idx < call.errorsList.length := by
        rw [ht.length_eq]
        exact (List.getElem?_eq_some_iff.mp (ht.items g (Multiset.mem_cons_self _ _) hid)).1
      apply ht.moved hsame hid
      case hemails | hstarted => rfl
      case hlength => exact List.length_set
      case hwg =>
        rw [hrunning, hrunning']
        rfl
      case hothers => exact fun i hi => List.getElem?_set_ne hi
      case hreturned => exact .inl hrunning
      case hown =>
        intro e he
        rw [hstored] at he
        exact (List.getElem?_set_self hidx).trans he
    · exact absurd hid hne
  | ends hstored hrunning hrunning' =>
    obtain ⟨call, hcall, ⟨-, rfl⟩ | ⟨hne, -⟩⟩ := getElem?_modify_cases hcall'
    · have ht := h hcall
      have hpos : 0 < call.wg := by
        rw [ht.wg_eq]
        refine count_pos.mpr ⟨_, Multiset.mem_cons_self _ _, ?_⟩
        simp [Thread.runsIn, hid, hrunning]
      apply ht.moved hsame hid
      case hemails | hstarted | hlength => rfl
      case hwg =>
        rw [hrunning, hrunning']
        exact Nat.sub_add_cancel hpos
      case hothers => exact fun _ _ => rfl
      case hreturned => exact .inl hrunning
      case hown =>
        exact fun err herr => ht.stored g err (Multiset.mem_cons_self _ _) hid (hstored.symm.trans herr)
    · exact absurd hid hne

lemma CallEffect.length_eq (h : CallEffect g g' calls calls') : calls'.length = calls.length := by
  cases h with
  | keeps => rfl
  | stores err => exact List.length_modify _ _ _
  | ends => exact List.length_modify _ _ _

lemma CallEffect.getElem?_of_ne (h : CallEffect g g' calls calls') {id : Nat} (hid : g.call ≠ id) :
    calls'[id]? = calls[id]? := by
  cases h with
  | keeps => rfl
  | stores err => exact List.getElem?_modify_ne _ _ hid
  | ends => exact List.getElem?_modify_ne _ _ hid

lemma map_modify_of {β : Type} {f : BatchCall → β} {h : BatchCall → BatchCall} (hf : ∀ c, f (h c) = f c) (id : Nat) :
    (calls.modify id h).map f = calls.map f := by
  apply List.ext_getElem?
  intro i
  rw [List.getElem?_map, List.getElem?_map, List.getElem?_modify]
  cases calls[i]? with
  | none => rfl
  | some c =>
    simp only [Option.map_eq_map, Option.map_some]
    split <;> simp [hf]

lemma CallEffect.map_eq {β : Type} {f : BatchCall → β} (h : CallEffect g g' calls calls')
    (hstore : ∀ idx err c, f (BatchCall.store idx err c) = f c) (hdone : ∀ c, f (BatchCall.done c) = f c) :
    calls'.map f = calls.map f := by
  cases h with
  | keeps => rfl
  | stores err => exact map_modify_of (hstore g.idx err) g.call
  | ends => exact map_modify_of hdone g.call

lemma Tracked.moved (h : Tracked calls (.goroutine g ::ₘ rest)) (hsame : g.Same g')
    (heffect : CallEffect g g' calls calls') : Tracked calls' (.goroutine g' ::ₘ rest) := by
  constructor
  case known =>
    intro k hk
    rw [heffect.length_eq]
    rcases Multiset.mem_cons.mp hk with heq | hmem
    · cases heq
      rw [hsame.call_eq]
      exact h.known g (Multiset.mem_cons_self _ _)
    · exact h.known k (Multiset.mem_cons_of_mem hmem)
  case callers =>
    rw [heffect.length_eq, ← h.callers, Multiset.filterMap_cons_none _ _ rfl, Multiset.filterMap_cons_none _ _ rfl]
  case tracked =>
    intro id call' hcall'
    by_cases hid : g.call = id
    · exact CallTracked.effect h.tracked hsame hid heffect hcall'
    · rw [heffect.getElem?_of_ne hid] at hcall'
      have hid' : g'.call ≠ id := by
        rw [hsame.call_eq]
        exact hid
      have hconcerns : (Thread.goroutine g).concerns id = false := decide_eq_false hid
      have hconcerns' : (Thread.goroutine g').concerns id = false := decide_eq_false hid'
      rw [callTracked_cons_of_not hconcerns', ← callTracked_cons_of_not hconcerns]
      exact h.tracked hcall'

lemma Tracked.caller_lt (h : Tracked calls rest) {id : Nat} {results : Option (List (Option GoError))}
    (hmem : .caller id results ∈ rest) : id < calls.length := by
  rw [← Multiset.mem_range, ← h.callers, Multiset.mem_filterMap]
  exact ⟨_, hmem, rfl⟩

lemma Tracked.not_concerns (h : Tracked calls rest) {l : Thread} (hl : l ∈ rest) :
    l.concerns calls.length = false := by
  cases l with
  | caller id results => exact decide_eq_false (h.caller_lt hl).ne
  | goroutine g => exact decide_eq_false (h.known g hl).ne
  | limiter key => rfl

lemma callTracked_of_not {id : Nat} {call : BatchCall} {ls : Multiset Thread}
    (h : ∀ l ∈ ls, l.concerns id = false) (hnone : CallTracked id call 0) : CallTracked id call ls := by
  induction ls using Multiset.induction_on with
  | empty => exact hnone
  | cons l ls ih =>
    obtain ⟨hl, hls⟩ := Multiset.forall_mem_cons.mp h
    exact (callTracked_cons_of_not hl).mpr (ih hls)

lemma callTracked_caller_cons {id : Nat} {call : BatchCall} {results : Option (List (Option GoError))} :
    CallTracked id call (.caller id results ::ₘ rest) ↔ CallTracked id call rest ∧
      ∀ r, results = some r → call.started = call.emails.length ∧ call.wg = 0 ∧ call.errorsList = r := by
  have hindices : (Thread.caller id results ::ₘ rest).filterMap (Thread.indexIn id) =
      rest.filterMap (Thread.indexIn id) := Multiset.filterMap_cons_none _ _ rfl
  have hruns : count (Thread.runsIn id) (.caller id results ::ₘ rest) = count (Thread.runsIn id) rest :=
    count_cons_of_false rfl
  have hgoroutine : ∀ g, .goroutine g ∈ Thread.caller id results ::ₘ rest → .goroutine g ∈ rest := by
    intro g hmem
    exact (Multiset.mem_cons.mp hmem).resolve_left Thread.noConfusion
  constructor
  · intro ht
    refine ⟨ht.congr hindices.symm hruns.symm fun _ _ => Multiset.mem_cons_of_mem, ?_⟩
    rintro r rfl
    exact ht.returned r (Multiset.mem_cons_self _ _)
  · rintro ⟨ht, hresults⟩
    constructor
    case length_eq => exact ht.length_eq
    case indices => exact hindices.trans ht.indices
    case wg_eq => exact ht.wg_eq.trans hruns.symm
    case items => exact fun g hmem => ht.items g (hgoroutine g hmem)
    case stored => exact fun g err hmem => ht.stored g err (hgoroutine g hmem)
    case returned =>
      intro r hmem
      rcases Multiset.mem_cons.mp hmem with heq | hmem
      · cases heq
        exact hresults r rfl
      · exact ht.returned r hmem

lemma Tracked.batch (h : Tracked calls rest) (emails : List (Option Email)) :
    Tracked (calls ++ [{ emails := emails, errorsList := List.replicate emails.length none }])
      (.caller calls.length none ::ₘ rest) := by
  constructor
  case known =>
    intro g hg
    rcases Multiset.mem_cons.mp hg with heq | hmem
    · cases heq
    · rw [List.length_append]
      exact Nat.lt_add_right _ (h.known g hmem)
  case callers =>
    have hcaller : (Thread.caller calls.length none).callerId = some calls.length := rfl
    rw [Multiset.filterMap_cons_some _ _ _ hcaller, h.callers, List.length_append]
    exact (Multiset.range_succ _).symm
  case tracked =>
    intro id call hcall
    rcases Nat.lt_or_ge id calls.length with hlt | hge
    · rw [List.getElem?_append_left hlt] at hcall
      have hconcerns : (Thread.caller calls.length none).concerns id = false := decide_eq_false hlt.ne'
      exact (callTracked_cons_of_not hconcerns).mpr (h.tracked hcall)
    · rw [List.getElem?_append_right hge, List.getElem?_singleton] at hcall
      split_ifs at hcall with hid
      cases hcall
      obtain rfl : id = calls.length := by omega
      have hnone : CallTracked calls.length
          { emails := emails, errorsList := List.replicate emails.length none } 0 := by
        constructor <;> simp
      rw [callTracked_caller_cons]
      exact ⟨callTracked_of_not (fun l => h.not_concerns) hnone, by simp⟩

lemma CallTracked.started {id : Nat} {call : BatchCall} {item : Option Email} (ht : CallTracked id call rest)
    (hitem : call.emails[call.started]? = some item) :
    CallTracked id { call with started := call.started + 1, wg := call.wg + 1 }
      (.goroutine { call := id, idx := call.started, item := item } ::ₘ rest) where
  length_eq := ht.length_eq
  indices := by
    have hindex : (Thread.goroutine { call := id, idx := call.started, item := item }).indexIn id =
        some call.started := if_pos rfl
    rw [Multiset.filterMap_cons_some _ _ _ hindex, ht.indices]
    exact (Multiset.range_succ _).symm
  wg_eq := by
    rw [count_cons, ht.wg_eq]
    simp [Thread.runsIn, Phase.running]
  items := by
    intro g hmem hid
    rcases Multiset.mem_cons.mp hmem with heq | hmem
    · cases heq
      exact hitem
    · exact ht.items g hmem hid
  stored := by
    intro g err hmem hid hstored
    rcases Multiset.mem_cons.mp hmem with heq | hmem
    · cases heq
      cases hstored
    · exact ht.stored g err hmem hid hstored
  returned := by
    intro results hmem
    rcases Multiset.mem_cons.mp hmem with heq | hmem
    · cases heq
    · -- a call that has returned has left its loop
      obtain ⟨hlt, -⟩ := List.getElem?_eq_some_iff.mp hitem
      exact absurd (ht.returned results hmem).1 hlt.ne

lemma Tracked.started {id : Nat} {call : BatchCall} {item : Option Email} (h : Tracked calls rest)
    (hcall : calls[id]? = some call) (hitem : call.emails[call.started]? = some item) :
    Tracked (calls.modify id fun c => { c with started := c.started + 1, wg := c.wg + 1 })
      (.goroutine { call := id, idx := call.started, item := item } ::ₘ rest) := by
  constructor
  case known =>
    intro g hg
    rw [List.length_modify]
    rcases Multiset.mem_cons.mp hg with heq | hmem
    · cases heq
      exact (List.getElem?_eq_some_iff.mp hcall).1
    · exact h.known g hmem
  case callers =>
    rw [List.length_modify, Multiset.filterMap_cons_none _ _ rfl, h.callers]
  case tracked =>
    intro i call' hcall'
    obtain ⟨call'', hcall'', ⟨rfl, rfl⟩ | ⟨hne, rfl⟩⟩ := getElem?_modify_cases hcall'
    · cases hcall.symm.trans hcall''
      exact (h.tracked hcall).started hitem
    · have hconcerns : (Thread.goroutine { call := id, idx := call.started, item := item }).concerns i = false :=
        decide_eq_false hne
      exact (callTracked_cons_of_not hconcerns).mpr (h.tracked hcall'')

lemma Tracked.returned {id : Nat} {call : BatchCall} (h : Tracked calls (.caller id none ::ₘ rest))
    (hcall : calls[id]? = some call) (hstarted : call.started = call.emails.length) (hwg : call.wg = 0) :
    Tracked calls (.caller id (some call.errorsList) ::ₘ rest) := by
  constructor
  case known =>
    intro g hg
    apply h.known g
    exact Multiset.mem_cons_of_mem ((Multiset.mem_cons.mp hg).resolve_left Thread.noConfusion)
  case callers =>
    rw [← h.callers, Multiset.filterMap_cons, Multiset.filterMap_cons]
    rfl
  case tracked =>
    intro i call' hcall'
    by_cases hid : id = i
    · subst hid
      cases hcall.symm.trans hcall'
      rw [callTracked_caller_cons]
      refine ⟨(callTracked_caller_cons.mp (h.tracked hcall)).1, ?_⟩
      rintro r ⟨⟩
      exact ⟨hstarted, hwg, rfl⟩
    · have hconcerns : ∀ results, (Thread.caller id results).concerns i = false := fun _ => decide_eq_false hid
      rw [callTracked_cons_of_not (hconcerns _), ← callTracked_cons_of_not (hconcerns none)]
      exact h.tracked hcall'

lemma Tracked.cancelled {id : Nat} {err : GoError} (h : Tracked calls rest) :
    Tracked (calls.modify id fun c => { c with ctxErr := c.ctxErr <|> some err }) rest := by
  constructor
  case known =>
    intro g hg
    rw [List.length_modify]
    exact h.known g hg
  case callers => rw [List.length_modify, h.callers]
  case tracked =>
    intro i call' hcall'
    obtain ⟨call, hcall, ⟨-, rfl⟩ | ⟨-, rfl⟩⟩ := getElem?_modify_cases hcall'
    · have ht := h.tracked hcall
      exact ⟨ht.length_eq, ht.indices, ht.wg_eq, ht.items, ht.stored, ht.returned⟩
    · exact h.tracked hcall

end Run

lemma preserves_tracked : (program m codec).Preserves fun s ls => Tracked s.calls ls where
  call := by
    intro s rest i s' l h hcall
    obtain ⟨-, hcall⟩ := callStep_of_call hcall
    cases hcall with
    | batch emails => exact h.batch emails
    | started id call item hget hitem => exact h.started hget hitem
  step := by
    intro s rest l a s' l' h hstep
    obtain ⟨-, hstep⟩ := threadStep_of_step hstep
    cases hstep with
    | returned id call hcall hstarted hwg => exact h.returned hcall hstarted hwg
    | cancelled id results err => exact h.cancelled
    | moved g g' _ hmove => exact h.moved (same_of_step hmove) (callEffect_of_step hmove)
    | refilled key => exact h
    | full key => exact h
  meet := by
    intro s rest l k s' l' k' h hmeet
    obtain ⟨-, hmeet⟩ := meetStep_of_meet hmeet
    cases hmeet with
    | handedOver g g' j j' client passed err data hphase hphase' =>
      have heffect : CallEffect g (g.goto (.releasing j client err .unlocking)) s.calls s.calls := by
        apply CallEffect.keeps <;> rw [hphase] <;> rfl
      have heffect' : CallEffect g' (g'.goto (.acquiring j' data (.testing .second passed))) s.calls s.calls := by
        apply CallEffect.keeps <;> rw [hphase'] <;> rfl
      have hfirst := h.moved (same_goto g _) heffect
      rw [Multiset.cons_swap] at hfirst ⊢
      exact hfirst.moved (same_goto g' _) heffect'

end MailBaby.SendBatch
