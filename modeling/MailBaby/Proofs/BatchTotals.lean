import MailBaby.Proofs.BatchCalls

/-!
# The counters of the accounts

A `Send` that has chosen an account is counted once, before its error is stored: as sent if the client
returned no error, as failed otherwise.
-/

namespace MailBaby.SendBatch

open Lib Lib.Mime Smtp Sender

variable {m : MultiAccountSender} {codec : Codec} {s s' : State} {g g' : Goroutine} {key : String} {ok : Bool}

def Thread.Sound (m : MultiAccountSender) (codec : Codec) : Thread → Prop
  | goroutine g => g.Sound m codec
  | _ => True

lemma preserves_sound : (program m codec).Preserves fun _ ls => ∀ l ∈ ls, l.Sound m codec := by
  apply Program.preserves_forall
  · intro s i s' l hcall
    obtain ⟨-, hcalled⟩ := callStep_of_call hcall
    cases hcalled with
    | batch emails => trivial
    | started id call item => exact rfl
  · intro s l a s' l' hl hstep
    obtain ⟨-, hstepped⟩ := threadStep_of_step hstep
    cases hstepped with
    | moved g g' _ hmove => exact sound_step hl hmove
    | returned | cancelled | refilled | full => trivial
  · intro s l k s' l' k' hl hk hmeet
    obtain ⟨-, hmet⟩ := meetStep_of_meet hmeet
    cases hmet with
    | handedOver g g' j j' client passed err data hphase hphase' =>
      simp only [Thread.Sound, Goroutine.Sound, hphase, hphase'] at hl hk
      exact ⟨hl, hk⟩

/-! ### Counters -/

def Phase.settled : Phase → Option (Option GoError)
  | .storing err => some err
  | p => p.stored

def Event.key? : Event → Option String
  | selected key => some key
  | _ => none

def Goroutine.selected (g : Goroutine) : Option String := g.events.findSome? Event.key?

def Goroutine.countedAs (key : String) (ok : Bool) (g : Goroutine) : Bool :=
  g.phase.settled.any (fun err => err.isNone == ok) && decide (g.selected = some key)

def Account.total (a : Account) : Bool → Nat
  | true => a.totalSent
  | false => a.totalFailed

lemma total_count (a : Account) (err : Option GoError) (ok : Bool) :
    (a.count err).total ok = a.total ok + (err.isNone == ok).toNat := by
  cases err <;> cases ok <;> rfl

lemma total_updateAccount {k : String} {f : Account → Account} (hf : ∀ a, (f a).total ok = a.total ok) :
    ((s.updateAccount k f).accounts key).total ok = (s.accounts key).total ok := by
  unfold State.updateAccount
  by_cases hkey : key = k
  · rw [hkey]
    simp only [Function.update_self, hf]
  · simp only [Function.update_of_ne hkey]

lemma countedAs_of_unsettled (h : g.phase.settled = none) : g.countedAs key ok = false := by
  rw [Goroutine.countedAs, h]
  rfl

lemma countedAs_eq_of_unsettled (h : g.phase.settled = none) (h' : g'.phase.settled = none) :
    g'.countedAs key ok = g.countedAs key ok := by
  rw [countedAs_of_unsettled h, countedAs_of_unsettled h']

lemma countedAs_goto {phase : Phase} (h : phase.settled = g.phase.settled) :
    (g.goto phase).countedAs key ok = g.countedAs key ok := by
  change (phase.settled.any _ && _) = _
  rw [h]
  rfl

lemma countedAs_of_unselected (h : g.events = []) : g.countedAs key ok = false := by
  simp [Goroutine.countedAs, Goroutine.selected, h]

lemma selected_of_ends {j : Job} {err : Option GoError} (h : Ends codec j g.events err) :
    g.selected = some j.key := by
  unfold Goroutine.selected
  generalize g.events = events at h
  cases h <;> rfl

lemma countedAs_counted {j : Job} {err : Option GoError} (h : Ends codec j g.events err) :
    (g.goto (.storing err)).countedAs key ok = ((err.isNone == ok) && decide (j.key = key)) := by
  have hselected : (g.goto (.storing err)).selected = some j.key := selected_of_ends h
  rw [Goroutine.countedAs, hselected]
  simp [Goroutine.goto, Phase.settled]

lemma settled_acquired (g : Goroutine) (j : Job) (data : Text) (l : Pool.Call) :
    (acquired g j data l).phase.settled = none := by
  unfold acquired
  split <;> rfl

lemma settled_released (g : Goroutine) (j : Job) (client : Pool.Conn) (err : Option GoError) (l : Pool.Call) :
    (released g j client err l).phase.settled = none := by
  unfold released
  split <;> rfl

lemma total_setPool (s : State) (k : String) (p : Pool.State) :
    ((s.setPool k p).accounts key).total ok = (s.accounts key).total ok := by
  apply total_updateAccount
  intro a
  cases ok <;> rfl

lemma total_cases (hsound : g.Sound m codec) (h : GoroutineStep m codec s g g.phase s' g') (key : String) (ok : Bool) :
    (∃ j err, g.phase = .counting j err ∧ Ends codec j g.events err ∧
      s' = s.updateAccount j.key (Account.count err) ∧ g' = g.goto (.storing err)) ∨
    (s'.accounts key).total ok = (s.accounts key).total ok ∧ g'.countedAs key ok = g.countedAs key ok := by
  unfold Goroutine.Sound at hsound
  generalize hp : g.phase = p at h hsound
  cases h with
  | counted j err => exact .inl ⟨j, err, rfl, hsound.2, rfl, rfl⟩
  | gaveUp err | unsent err =>
    refine .inr ⟨rfl, ?_⟩
    rw [countedAs_of_unselected hsound]
    exact countedAs_of_unselected (g := g.goto _) hsound
  | token j =>
    refine .inr ⟨total_updateAccount fun a => ?_, countedAs_goto (by rw [hp]; rfl)⟩
    cases ok <;> rfl
  | acquire j data l l' b p =>
    exact .inr ⟨total_setPool s j.key p, countedAs_eq_of_unsettled (by rw [hp]; rfl) (settled_acquired g j data l')⟩
  | release j client err l l' b p =>
    exact .inr ⟨total_setPool s j.key p, countedAs_eq_of_unsettled (by rw [hp]; rfl) (settled_released g j client err l')⟩
  | delivered j data client err =>
    exact .inr ⟨total_setPool s j.key _, countedAs_eq_of_unsettled (by rw [hp]; rfl) rfl⟩
  | selected => exact .inr ⟨rfl, countedAs_eq_of_unsettled (by rw [hp]; rfl) rfl⟩
  | crashed => exact .inr ⟨rfl, countedAs_goto (by rw [hp])⟩
  | _ => exact .inr ⟨rfl, countedAs_goto (by rw [hp]; rfl)⟩

lemma total_step (hsound : g.Sound m codec) (h : GoroutineStep m codec s g g.phase s' g') (key : String) (ok : Bool) :
    (s'.accounts key).total ok + (g.countedAs key ok).toNat =
      (s.accounts key).total ok + (g'.countedAs key ok).toNat := by
  rcases total_cases hsound h key ok with ⟨j, err, hphase, hends, rfl, rfl⟩ | ⟨htotal, hcounted⟩
  · have hunsettled : g.phase.settled = none := by
      rw [hphase]
      rfl
    rw [countedAs_of_unsettled hunsettled, countedAs_counted hends]
    by_cases hkey : key = j.key
    · simp [State.updateAccount, hkey, total_count]
    · simp [State.updateAccount, Function.update_of_ne hkey, Ne.symm hkey]
  · rw [htotal, hcounted]

def Thread.countedAs (key : String) (ok : Bool) : Thread → Bool
  | goroutine g => g.countedAs key ok
  | _ => false

lemma preserves_totals (key : String) (ok : Bool) : (program m codec).Preserves fun s ls =>
    (∀ l ∈ ls, l.Sound m codec) ∧
      ((s.accounts key).total ok : Int) = (ls.map fun l => ((l.countedAs key ok).toNat : Int)).sum := by
  apply preserves_sound.and_sum
  · intro s i s' l hcall
    obtain ⟨-, hcalled⟩ := callStep_of_call hcall
    cases hcalled with
    | batch emails => rfl
    | started id call item => rfl
  · intro s rest l a s' l' hsound hstep
    obtain ⟨-, hstepped⟩ := threadStep_of_step hstep
    cases hstepped with
    | moved g g' _ hmove =>
      have htotal := total_step (hsound _ (Multiset.mem_cons_self _ _)) hmove key ok
      simp only [Thread.countedAs]
      omega
    | refilled k =>
      have htotal : ((s.updateAccount k fun a => { a with rateLimiter := a.rateLimiter + 1 }).accounts key).total ok =
          (s.accounts key).total ok := by
        apply total_updateAccount
        intro a
        cases ok <;> rfl
      rw [htotal, sub_self, add_zero]
    | returned | cancelled | full => exact (add_zero _).symm
  · intro s l k s' l' k' hmeet
    obtain ⟨-, hmet⟩ := meetStep_of_meet hmeet
    cases hmet with
    | handedOver g g' j j' client passed err data hphase hphase' =>
      have hcounted : (g.goto (.releasing j client err .unlocking)).countedAs key ok = g.countedAs key ok := by
        apply countedAs_goto
        rw [hphase]
        rfl
      have hcounted' : (g'.goto (.acquiring j' data (.testing .second passed))).countedAs key ok =
          g'.countedAs key ok := by
        apply countedAs_goto
        rw [hphase']
        rfl
      simp only [Thread.countedAs, hcounted, hcounted', sub_self, add_zero]

end MailBaby.SendBatch
