import MailBaby.Proofs.Sending
import MailBaby.Sender.Batch

/-!
# The steps of a batch

What a goroutine of `SendBatch` can do in one step, and what it has done for its email by the time it has an
error to store: nothing at the pool, or one transmission between an `Acquire` and its `Release`.
-/

namespace MailBaby.SendBatch

open Lib Lib.Mime Smtp Sender

variable {m : MultiAccountSender} {codec : Codec} {s s' : State} {g g' : Goroutine} {a : Action}

/-! ### What a step can do -/

variable (m codec s g) in
inductive GoroutineStep : Phase → State → Goroutine → Prop
  | entered (hroom : s.batchSem < m.batchSem) :
      GoroutineStep .entering { s with batchSem := s.batchSem + 1 } (g.goto .sending)
  | refused (err : GoError) (hctx : s.ctxErr g.call = some err) : GoroutineStep .entering s (g.goto (.refused err))
  | gaveUp (err : GoError) :
      GoroutineStep (.refused err) (s.updateCall g.call (.store g.idx (some err))) (g.goto (.exiting (some err)))
  | unsent (err : GoError) : GoroutineStep .sending s (g.goto (.storing (some err)))
  | selected (email : Email) (acc : AccountSender) (hitem : g.item = some email)
      (hacc : m.accounts.lookup (target email.account) = some acc) :
      GoroutineStep .sending s
        (g.log (.selected (target email.account)) (.checking ⟨target email.account, acc, email⟩))
  | objected (j : Job) (err : GoError) : GoroutineStep (.checking j) s (g.goto (.counting j (some err)))
  | limited (j : Job) (htokens : j.acc.tokens.isSome = true) : GoroutineStep (.checking j) s (g.goto (.limiting j))
  | unlimited (j : Job) (htokens : ¬j.acc.tokens.isSome = true) : GoroutineStep (.checking j) s (g.goto (.building j))
  | token (j : Job) (htoken : 0 < (s.accounts j.key).rateLimiter) :
      GoroutineStep (.limiting j)
        (s.updateAccount j.key fun a => { a with rateLimiter := a.rateLimiter - 1 }) (g.goto (.building j))
  | stopped (j : Job) (err : GoError) (hctx : s.ctxErr g.call = some err) :
      GoroutineStep (.limiting j) s (g.goto (.counting j (some err)))
  | crashed (j : Job) (env : MIMEEnv)
      (hbuild : buildMIME env j.email j.acc.cfg.sender j.acc.cfg.fromName = .panics) :
      GoroutineStep (.building j) { s with crashed := true } (g.goto (.building j))
  | unbuilt (j : Job) (err : GoError) : GoroutineStep (.building j) s (g.goto (.counting j (some err)))
  | built (j : Job) (env : MIMEEnv) (data : Text)
      (hbuild : buildMIME env j.email j.acc.cfg.sender j.acc.cfg.fromName = .ok data) :
      GoroutineStep (.building j) s (g.goto (.acquiring j data .acquire))
  | acquire (j : Job) (data : Text) (l l' : Pool.Call) (b : Pool.Action) (p : Pool.State)
      (hctx : stopsWith (s.ctxErr g.call) b = true)
      (hstep : Pool.step j.acc.pool (s.accounts j.key).pool l b = some (p, l')) :
      GoroutineStep (.acquiring j data l) (s.setPool j.key p) (acquired g j data l')
  | delivered (j : Job) (data : Text) (client : Pool.Conn) (err : Option GoError) :
      GoroutineStep (.transmitting j data client)
        (s.setPool j.key
          { (s.accounts j.key).pool with lent := (s.accounts j.key).pool.lent.erase client })
        (g.log (.transmitted j.key client (j.smtpCall codec data) err)
          (.releasing j client err (.release (some client) err)))
  | release (j : Job) (client : Pool.Conn) (err : Option GoError) (l l' : Pool.Call) (b : Pool.Action)
      (p : Pool.State) (hstep : Pool.step j.acc.pool (s.accounts j.key).pool l b = some (p, l')) :
      GoroutineStep (.releasing j client err l) (s.setPool j.key p) (released g j client err l')
  | counted (j : Job) (err : Option GoError) :
      GoroutineStep (.counting j err) (s.updateAccount j.key (Account.count err)) (g.goto (.storing err))
  | stored (err : Option GoError) :
      GoroutineStep (.storing err) (s.updateCall g.call (.store g.idx err)) (g.goto (.leaving err))
  | left (err : Option GoError) (hslot : 0 < s.batchSem) :
      GoroutineStep (.leaving err) { s with batchSem := s.batchSem - 1 } (g.goto (.exiting err))
  | exited (err : Option GoError) : GoroutineStep (.exiting err) (s.updateCall g.call .done) (g.goto (.finished err))

lemma goroutineStep_of_step (h : stepGoroutine m codec s g a = some (s', g')) :
    GoroutineStep m codec s g g.phase s' g' := by
  unfold stepGoroutine at h
  generalize hp : g.phase = p at h
  split at h
  · split_ifs at h with hroom
    cases h
    exact .entered hroom
  · obtain ⟨err, hctx, heq⟩ := Option.map_eq_some_iff.mp h
    cases heq
    exact .refused err hctx
  · cases h
    exact .gaveUp _
  · split at h
    · cases h
      exact .unsent _
    · split at h
      · cases h
        exact .unsent _
      · cases h
        exact .selected _ _ ‹_› ‹_›
  · split at h
    · cases h
      exact .objected _ _
    · cases h
      split_ifs with htokens
      · exact .limited _ htokens
      · exact .unlimited _ htokens
  · split_ifs at h with htoken
    cases h
    exact .token _ htoken
  · obtain ⟨err, hctx, heq⟩ := Option.map_eq_some_iff.mp h
    cases heq
    exact .stopped _ err hctx
  · split at h
    · cases h
      have hstays : g = g.goto g.phase := rfl
      rw [hstays, hp]
      exact .crashed _ _ ‹_›
    · cases h
      exact .unbuilt _ _
    · cases h
      exact .built _ _ _ ‹_›
  · split_ifs at h with hctx
    obtain ⟨⟨p, l'⟩, hstep, heq⟩ := Option.map_eq_some_iff.mp h
    cases heq
    exact .acquire _ _ _ l' _ p hctx hstep
  · cases h
    exact .delivered _ _ _ _
  · obtain ⟨⟨p, l'⟩, hstep, heq⟩ := Option.map_eq_some_iff.mp h
    cases heq
    exact .release _ _ _ _ l' _ p hstep
  · cases h
    exact .counted _ _
  · cases h
    exact .stored _
  · split_ifs at h with hslot
    cases h
    exact .left _ hslot
  · cases h
    exact .exited _
  · cases h

inductive ThreadStep (m : MultiAccountSender) (codec : Codec) (s : State) : Thread → Action → State → Thread → Prop
  | returned (id : Nat) (call : BatchCall) (hcall : s.calls[id]? = some call)
      (hstarted : call.started = call.emails.length) (hwg : call.wg = 0) :
      ThreadStep m codec s (.caller id none) .proceed s (.caller id (some call.errorsList))
  | cancelled (id : Nat) (results : Option (List (Option GoError))) (err : GoError) :
      ThreadStep m codec s (.caller id results) (.cancel err)
        (s.updateCall id fun c => { c with ctxErr := c.ctxErr <|> some err }) (.caller id results)
  | moved (g g' : Goroutine) (s' : State) (hstep : GoroutineStep m codec s g g.phase s' g') {a : Action} :
      ThreadStep m codec s (.goroutine g) a s' (.goroutine g')
  | refilled (key : String) :
      ThreadStep m codec s (.limiter key) .tick
        (s.updateAccount key fun a => { a with rateLimiter := a.rateLimiter + 1 }) (.limiter key)
  | full (key : String) : ThreadStep m codec s (.limiter key) .tick s (.limiter key)

lemma threadStep_of_step {l l' : Thread} (h : (program m codec).step s l a = some (s', l')) :
    s.crashed = false ∧ ThreadStep m codec s l a s' l' := by
  simp only [program, step] at h
  split_ifs at h with hcrashed
  refine ⟨Bool.eq_false_iff.mpr hcrashed, ?_⟩
  cases l with
  | caller id results =>
    obtain ⟨⟨t, results'⟩, hstep, heq⟩ := Option.map_eq_some_iff.mp h
    cases heq
    unfold stepCaller at hstep
    split at hstep
    · obtain ⟨call, hcall, hstep⟩ := Option.bind_eq_some_iff.mp hstep
      split_ifs at hstep with hdone
      cases hstep
      exact .returned id call hcall hdone.1 hdone.2
    · cases hstep
      exact .cancelled id results _
    · cases hstep
  | goroutine g =>
    obtain ⟨⟨t, g'⟩, hstep, heq⟩ := Option.map_eq_some_iff.mp h
    cases heq
    exact .moved g g' _ (goroutineStep_of_step hstep)
  | limiter key =>
    obtain ⟨t, hstep, heq⟩ := Option.map_eq_some_iff.mp h
    cases heq
    unfold stepLimiter at hstep
    split at hstep
    · obtain ⟨capacity, -, heq⟩ := Option.map_eq_some_iff.mp hstep
      split_ifs at heq with hroom
      · cases heq
        exact .refilled key
      · cases heq
        exact .full key
    · cases hstep

inductive CallStep (s : State) : Request → State → Thread → Prop
  | batch (emails : List (Option Email)) :
      CallStep s (.sendBatch emails)
        { s with calls := s.calls ++ [{ emails := emails, errorsList := List.replicate emails.length none }] }
        (.caller s.calls.length none)
  | started (id : Nat) (call : BatchCall) (item : Option Email) (hcall : s.calls[id]? = some call)
      (hitem : call.emails[call.started]? = some item) :
      CallStep s (.start id) (s.updateCall id fun c => { c with started := c.started + 1, wg := c.wg + 1 })
        (.goroutine { call := id, idx := call.started, item := item })

lemma callStep_of_call {i : Request} {l : Thread} (h : (program m codec).call s i = some (s', l)) :
    s.crashed = false ∧ CallStep s i s' l := by
  simp only [program, request] at h
  split_ifs at h with hcrashed
  refine ⟨Bool.eq_false_iff.mpr hcrashed, ?_⟩
  cases i with
  | sendBatch emails =>
    cases h
    exact .batch emails
  | start id =>
    obtain ⟨call, hcall, h⟩ := Option.bind_eq_some_iff.mp h
    obtain ⟨item, hitem, heq⟩ := Option.map_eq_some_iff.mp h
    cases heq
    exact .started id call item hcall hitem

lemma setPool_self (s : State) (key : String) : s.setPool key (s.accounts key).pool = s := by
  unfold State.setPool State.updateAccount
  rw [Function.update_eq_self]

/-- A client that goes from a `Release` to an `Acquire` leaves the pool as it is. -/
inductive MeetStep (s : State) : Thread → Thread → State → Thread → Thread → Prop
  | handedOver (g g' : Goroutine) (j j' : Job) (client passed : Pool.Conn) (err : Option GoError) (data : Text)
      (hphase : g.phase = .releasing j client err (.sending passed)) (hphase' : g'.phase = .acquiring j' data .phase2)
      (hkey : j.key = j'.key) (hopen : (s.accounts j.key).pool.idleClosed = false) :
      MeetStep s (.goroutine g) (.goroutine g') s (.goroutine (g.goto (.releasing j client err .unlocking)))
        (.goroutine (g'.goto (.acquiring j' data (.testing .second passed))))

lemma meetStep_of_meet {l k l' k' : Thread} (h : (program m codec).meet s l k = some (s', l', k')) :
    s.crashed = false ∧ MeetStep s l k s' l' k' := by
  simp only [program, handOver] at h
  split at h
  · rename_i g g'
    split at h
    · rename_i j client err l j' data l' hphase hphase'
      split_ifs at h with hkey
      refine ⟨hkey.1, ?_⟩
      obtain ⟨r, hmeet, heq⟩ := Option.map_eq_some_iff.mp h
      unfold Pool.handOver at hmeet
      split at hmeet
      · split_ifs at hmeet with hclosed
        cases hmeet
        cases heq
        rw [setPool_self]
        exact .handedOver g g' j j' client _ err data hphase hphase' hkey.2 (Bool.eq_false_iff.mpr hclosed)
      · cases hmeet
    · cases h
  · cases h

/-! ### What a goroutine has done -/

structure Job.For (m : MultiAccountSender) (item : Option Email) (j : Job) : Prop where
  item_eq : item = some j.email
  key_eq : j.key = target j.email.account
  lookup_eq : m.accounts.lookup j.key = some j.acc

def Job.Built (j : Job) (data : Text) : Prop :=
  ∃ env, buildMIME env j.email j.acc.cfg.sender j.acc.cfg.fromName = .ok data

/-- How `accountSender.Send` ends: with an error before a client was acquired, or with what the client
returned. -/
inductive Ends (codec : Codec) (j : Job) : List Event → Option GoError → Prop
  | failed (err : GoError) : Ends codec j [.selected j.key] (some err)
  | transmitted (data : Text) (client : Pool.Conn) (err : Option GoError) (hdata : j.Built data) :
      Ends codec j [.selected j.key, .acquired j.key client,
        .transmitted j.key client (j.smtpCall codec data) err, .released j.key client err] err

def Settled (m : MultiAccountSender) (codec : Codec) (item : Option Email) (events : List Event)
    (err : Option GoError) : Prop :=
  events = [] ∧ err ≠ none ∨ ∃ j : Job, j.For m item ∧ Ends codec j events err

def Phase.Sound (m : MultiAccountSender) (codec : Codec) (item : Option Email) (events : List Event) :
    Phase → Prop
  | .entering => events = []
  | .refused _ => events = []
  | .sending => events = []
  | .checking j => j.For m item ∧ events = [.selected j.key]
  | .limiting j => j.For m item ∧ events = [.selected j.key] ∧ j.acc.tokens.isSome = true
  | .building j => j.For m item ∧ events = [.selected j.key]
  | .acquiring j data _ => j.For m item ∧ j.Built data ∧ events = [.selected j.key]
  | .transmitting j data client =>
    j.For m item ∧ j.Built data ∧ events = [.selected j.key, .acquired j.key client]
  | .releasing j client err _ => j.For m item ∧ ∃ data, j.Built data ∧
      events = [.selected j.key, .acquired j.key client, .transmitted j.key client (j.smtpCall codec data) err]
  | .counting j err => j.For m item ∧ Ends codec j events err
  | .storing err => Settled m codec item events err
  | .leaving err => Settled m codec item events err
  | .exiting err => Settled m codec item events err
  | .finished err => Settled m codec item events err

def Goroutine.Sound (m : MultiAccountSender) (codec : Codec) (g : Goroutine) : Prop :=
  g.phase.Sound m codec g.item g.events

lemma sound_goto {phase : Phase} : (g.goto phase).Sound m codec ↔ phase.Sound m codec g.item g.events := Iff.rfl

lemma sound_log {e : Event} {phase : Phase} :
    (g.log e phase).Sound m codec ↔ phase.Sound m codec g.item (g.events ++ [e]) := Iff.rfl

lemma sound_acquired {j : Job} {data : Text} {l : Pool.Call} (hfor : j.For m g.item) (hdata : j.Built data)
    (hevents : g.events = [.selected j.key]) : (acquired g j data l).Sound m codec := by
  unfold acquired
  split
  · rw [sound_log, hevents]
    exact ⟨hfor, hdata, rfl⟩
  · rw [sound_goto, hevents]
    exact ⟨hfor, .failed _⟩
  · rw [sound_goto, hevents]
    exact ⟨hfor, hdata, rfl⟩

lemma sound_released {j : Job} {client : Pool.Conn} {err : Option GoError} {data : Text} {l : Pool.Call}
    (hfor : j.For m g.item) (hdata : j.Built data)
    (hevents : g.events = [.selected j.key, .acquired j.key client,
      .transmitted j.key client (j.smtpCall codec data) err]) : (released g j client err l).Sound m codec := by
  unfold released
  split
  · rw [sound_log, hevents]
    exact ⟨hfor, .transmitted data client err hdata⟩
  · rw [sound_goto, hevents]
    exact ⟨hfor, data, hdata, rfl⟩

lemma sound_step (h : g.Sound m codec) (hstep : GoroutineStep m codec s g g.phase s' g') : g'.Sound m codec := by
  unfold Goroutine.Sound at h
  generalize g.phase = p at h hstep
  cases hstep with
  | gaveUp err | unsent err => exact sound_goto.mpr (.inl ⟨h, by simp⟩)
  | selected email acc hitem hacc =>
    rw [Phase.Sound] at h
    rw [sound_log, h, List.nil_append]
    generalize hkey : target email.account = key at hacc
    exact ⟨⟨hitem, hkey.symm, hacc⟩, rfl⟩
  | objected j err | unbuilt j err =>
    rw [sound_goto, h.2]
    exact ⟨h.1, .failed err⟩
  | stopped j err =>
    rw [sound_goto, h.2.1]
    exact ⟨h.1, .failed err⟩
  | limited j htokens => exact sound_goto.mpr ⟨h.1, h.2, htokens⟩
  | token j => exact sound_goto.mpr ⟨h.1, h.2.1⟩
  | built j env data hbuild => exact sound_goto.mpr ⟨h.1, ⟨env, hbuild⟩, h.2⟩
  | acquire j data l l' b p hctx hstep => exact sound_acquired h.1 h.2.1 h.2.2
  | delivered j data client err =>
    rw [sound_log, h.2.2]
    exact ⟨h.1, data, h.2.1, rfl⟩
  | release j client err l l' b p hstep =>
    obtain ⟨hfor, data, hdata, hevents⟩ := h
    exact sound_released hfor hdata hevents
  | counted j err => exact sound_goto.mpr (.inr ⟨j, h⟩)
  | _ => exact sound_goto.mpr h

end MailBaby.SendBatch
