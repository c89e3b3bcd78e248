import MailBaby.Driver.MemoryTraffic
import MailBaby.Lib.History

/-!
# The steps of the memory queue

What a step of `Publish` can do, and what holds of every call of it: it never panics, and it leaves a
goroutine behind only for a message with a delay.
-/

namespace MailBaby.MemoryTraffic

open Lib
open MemoryQueue (errInvalidMessage)

variable {name : String} {s s' : State} {p p' : Publish}
variable {a : Action}

lemma sendMessage_cases (ch : Chan (Nat × Message)) (entry : Nat × Message) :
    ch.closed = true ∧ sendMessage ch entry = .yields (ch, false) ∨
      ch.closed = false ∧ ch.buffer.length < ch.capacity ∧
        sendMessage ch entry = .yields ({ ch with buffer := ch.buffer ++ [entry] }, true) ∨
      ch.closed = false ∧ ch.capacity ≤ ch.buffer.length ∧ sendMessage ch entry = .blocks := by
  unfold sendMessage
  cases hclosed : ch.closed with
  | true =>
    rw [Chan.send_of_closed hclosed]
    exact .inl ⟨rfl, rfl⟩
  | false =>
    rcases Nat.lt_or_ge ch.buffer.length ch.capacity with hroom | hfull
    · rw [Chan.send_of_room hclosed hroom]
      exact .inr (.inl ⟨rfl, hroom, by rw [hclosed]; rfl⟩)
    · rw [Chan.send_of_full hclosed hfull]
      exact .inr (.inr ⟨rfl, hfull, rfl⟩)

/-! ### What a step can do -/

def State.place (s : State) (p : Publish) : State :=
  { s with
    ch := { s.ch with buffer := s.ch.buffer ++ [(p.ref, p.item)] }
    placements := s.placements ++ [p.ref] }

inductive ItemStep (s : State) (p : Publish) : Item → State → Progress → Prop
  | refused (err : GoError) (herr : p.ctx.err s.now = some err) :
      ItemStep s p .checking s (.ends (.returns (some err)))
  | passed (hlive : p.ctx.err s.now = none) : ItemStep s p .checking s (.continues .sending)
  | placed (hopen : s.ch.closed = false) (hroom : s.ch.buffer.length < s.ch.capacity) :
      ItemStep s p .sending (s.place p) (.continues .counting)
  | failed (hclosed : s.ch.closed = true) :
      ItemStep s p .sending s (.ends (.returns (some errQueueClosed)))
  | counted : ItemStep s p .counting { s with totalPublished := s.totalPublished + 1 } (.ends (.returns none))

lemma itemStep_of_stepItem {i : Item} {r : Progress} (h : stepItem s p i = some (s', r)) :
    ItemStep s p i s' r := by
  cases i with
  | checking =>
    simp only [stepItem] at h
    split at h <;> cases h
    · exact .refused _ ‹_›
    · exact .passed ‹_›
  | sending =>
    simp only [stepItem] at h
    rcases sendMessage_cases s.ch (p.ref, p.item) with ⟨hclosed, hsend⟩ | ⟨hopen, hroom, hsend⟩ | ⟨-, -, hsend⟩
    all_goals
      rw [hsend] at h
      cases h
    · exact .failed hclosed
    · exact .placed hopen hroom
  | counting =>
    cases h
    exact .counted

def Publish.prepared (name : String) (p : Publish) (m : Message) : Message :=
  Memory.prepare name p.trace m p.opts

def Publish.begun (name : String) (s : State) (p : Publish) (m : Message) : Publish :=
  { p with
    item := (p.prepared name m).clone
    ctx := p.ctx.withTimeout s.now (publishOptions p.opts).timeout }

inductive PublishStep (name : String) (s : State) (p : Publish) : Action → State → Publish → Prop
  | invalid (hcaller : p.caller = .entered) (hmsg : p.msg = none) :
      PublishStep name s p .proceed s { p with caller := .returned (.returns (some errInvalidMessage)) }
  | refused (m : Message) (hcaller : p.caller = .entered) (hmsg : p.msg = some m) (hclosed : s.closed = true) :
      PublishStep name s p .proceed s { p with caller := .returned (.returns (some errQueueClosed)) }
  | admitted (m : Message) (hcaller : p.caller = .entered) (hmsg : p.msg = some m) (hopen : s.closed = false) :
      PublishStep name s p .proceed s { p with caller := .admitted }
  | registered (m : Message) (hcaller : p.caller = .admitted) (hmsg : p.msg = some m)
      (hdelay : (p.prepared name m).delay > 0) :
      PublishStep name s p .proceed { s with delayedWg := s.delayedWg + 1 }
        { p.begun name s m with caller := .returning (.returns none), delayed := .spawned }
  | started (m : Message) (hcaller : p.caller = .admitted) (hmsg : p.msg = some m)
      (hdelay : ¬(p.prepared name m).delay > 0) :
      PublishStep name s p .proceed s { p.begun name s m with caller := .publishing .checking }
  | caller (i : Item) (r : Progress) (hcaller : p.caller = .publishing i) (s' : State)
      (hitem : ItemStep s p i s' r) : PublishStep name s p .proceed s' (p.callerAt r)
  | returned (r : Outcome) (hcaller : p.caller = .returning r) :
      PublishStep name s p .proceed s { p with ctx.cancelled := p.ctx.deadline.isSome, caller := .returned r }
  | timer (hdelayed : p.delayed = .spawned) :
      PublishStep name s p .goroutine s { p with delayed := .waiting (s.now + p.item.delay) }
  | fired (fires : Time) (hdelayed : p.delayed = .waiting fires) (hfires : fires ≤ s.now) :
      PublishStep name s p .goroutine s { p with delayed := .publishing .checking }
  | goroutine (i : Item) (r : Progress) (hdelayed : p.delayed = .publishing i) (s' : State)
      (hitem : ItemStep s p i s' r) : PublishStep name s p .goroutine s' (p.goroutineAt r)
  | left (r : Outcome) (hdelayed : p.delayed = .leaving r) :
      PublishStep name s p .goroutine { s with delayedWg := s.delayedWg - 1 } { p with delayed := .ended r }
  | abandoned (fires : Time) (err : GoError) (hdelayed : p.delayed = .waiting fires)
      (herr : p.ctx.err s.now = some err) :
      PublishStep name s p .abandon s { p with delayed := .leaving (.returns (some err)) }
  | cancelled : PublishStep name s p .cancel s { p with ctx.callerDone := true }

lemma publishStep_of_stepCaller (h : stepCaller name s p = some (s', p')) :
    PublishStep name s p .proceed s' p' := by
  unfold stepCaller at h
  split at h
  · cases h
    exact .invalid ‹_› ‹_›
  · split at h <;> cases h
    · exact .refused _ ‹_› ‹_› ‹_›
    · exact .admitted _ ‹_› ‹_› (Bool.eq_false_iff.mpr ‹_›)
  · dsimp only at h
    split at h <;> cases h
    · exact .registered _ ‹_› ‹_› ‹_›
    · exact .started _ ‹_› ‹_› ‹_›
  · obtain ⟨⟨t, r⟩, hitem, heq⟩ := Option.map_eq_some_iff.mp h
    cases heq
    exact .caller _ r ‹_› _ (itemStep_of_stepItem hitem)
  · cases h
    exact .returned _ ‹_›
  · cases h

lemma publishStep_of_stepGoroutine (h : stepGoroutine s p = some (s', p')) :
    PublishStep name s p .goroutine s' p' := by
  unfold stepGoroutine at h
  split at h
  · cases h
    exact .timer ‹_›
  · split at h <;> cases h
    exact .fired _ ‹_› ‹_›
  · obtain ⟨⟨t, r⟩, hitem, heq⟩ := Option.map_eq_some_iff.mp h
    cases heq
    exact .goroutine _ r ‹_› _ (itemStep_of_stepItem hitem)
  · cases h
    exact .left _ ‹_›
  · cases h

lemma publishStep_of_stepPublish (h : stepPublish name s p a = some (s', p')) :
    PublishStep name s p a s' p' := by
  cases a with
  | proceed => exact publishStep_of_stepCaller h
  | goroutine => exact publishStep_of_stepGoroutine h
  | abandon =>
    simp only [stepPublish, stepAbandon] at h
    split at h <;> cases h
    exact .abandoned _ _ ‹_› ‹_›
  | cancel =>
    cases h
    exact .cancelled
  | _ => cases h

def Thread.serves : Thread → Bool
  | publish _ => false
  | close _ => false
  | _ => true

def Thread.held : Thread → Option Nat
  | worker _ (.received i) => some i
  | worker _ (.handling i) => some i
  | receive (.received i) => some i
  | receive (.returned (.ok i)) => some i
  | _ => none

def State.requeue (s : State) (m : Message) : State :=
  { s with
    ch := { s.ch with buffer := s.ch.buffer ++ [(s.nextRef, m)] }
    nextRef := s.nextRef + 1
    placements := s.placements ++ [s.nextRef]
    requeues := s.requeues + 1 }

inductive ServiceStep (s : State) (l : Thread) : State → Thread → Prop
  | took (entry : Nat × Message) (rest : List (Nat × Message)) (l' : Thread) (hbuffer : s.ch.buffer = entry :: rest)
      (hheld : l'.held = some s.handouts.length) :
      ServiceStep s l (s.handOut entry { s.ch with buffer := rest }) l'
  | requeued (m : Message) (l' : Thread) (hopen : s.ch.closed = false)
      (hroom : s.ch.buffer.length < s.ch.capacity) (hheld : l'.held = l.held) : ServiceStep s l (s.requeue m) l'
  | kept (handouts : List Handout) (inFlight : Int) (l' : Thread)
      (hrefs : handouts.map Handout.ref = s.handouts.map Handout.ref)
      (hheld : l'.held = l.held ∨ l'.held = none) :
      ServiceStep s l { s with handouts := handouts, inFlight := inFlight } l'

lemma map_ref_modify (handouts : List Handout) (i : Nat) {f : Handout → Handout} (hf : ∀ h, (f h).ref = h.ref) :
    (handouts.modify i f).map Handout.ref = handouts.map Handout.ref := by
  apply List.ext_getElem?
  intro j
  rw [List.getElem?_map, List.getElem?_map, List.getElem?_modify]
  cases handouts[j]? with
  | none => rfl
  | some h =>
    by_cases hij : i = j
    · simp [hij, hf]
    · simp [hij]

lemma ServiceStep.idle {l l' : Thread} (hheld : l'.held = l.held ∨ l'.held = none) : ServiceStep s l s l' :=
  .kept s.handouts s.inFlight l' rfl hheld

lemma ServiceStep.modify {l l' : Thread} (i : Nat) {f : Handout → Handout} (hf : ∀ h, (f h).ref = h.ref)
    (hheld : l'.held = l.held ∨ l'.held = none) :
    ServiceStep s l { s with handouts := s.handouts.modify i f } l' :=
  .kept _ s.inFlight l' (map_ref_modify s.handouts i hf) hheld

lemma serviceStep_of_stepWorker {autoAck : Bool} {w w' : Worker}
    (h : stepWorker autoAck s w a = some (s', w')) :
    ServiceStep s (.worker autoAck w) s' (.worker autoAck w') := by
  unfold stepWorker at h
  split at h
  · rcases s.ch.receive_cases with ⟨entry, rest, hbuffer, hreceive⟩ | ⟨-, -, hreceive⟩ | ⟨-, -, hreceive⟩
    all_goals
      rw [hreceive] at h
      cases h
    · exact .took entry rest _ hbuffer rfl
    · exact .idle (.inl rfl)
  all_goals cases h
  · exact .idle (.inl rfl)
  · exact .kept _ _ _ (map_ref_modify s.handouts _ fun _ => rfl) (.inl rfl)
  · exact .modify _ (fun _ => rfl) (.inr rfl)
  · exact .kept s.handouts _ _ rfl (.inl rfl)

lemma serviceStep_of_stepReceive {r r' : Receive} (h : stepReceive s r a = some (s', r')) :
    ServiceStep s (.receive r) s' (.receive r') := by
  unfold stepReceive at h
  split at h
  · rcases s.ch.receive_cases with ⟨entry, rest, hbuffer, hreceive⟩ | ⟨-, -, hreceive⟩ | ⟨-, -, hreceive⟩
    all_goals
      rw [hreceive] at h
      cases h
    · exact .took entry rest _ hbuffer rfl
    · exact .idle (.inl rfl)
  · obtain ⟨err, -, heq⟩ := Option.map_eq_some_iff.mp h
    cases heq
    exact .idle (.inl rfl)
  · split at h <;> cases h
    exact .idle (.inl rfl)
  all_goals cases h
  · exact .idle (.inl rfl)
  · exact .modify _ (fun _ => rfl) (.inl rfl)

lemma serviceStep_of_stepSettling {i : Nat} {m : Message} {k k' : Settling}
    (h : stepSettling s i m k a = some (s', k')) : ServiceStep s (.settle i k) s' (.settle i k') := by
  unfold stepSettling at h
  split at h
  · cases h
    exact .modify i (fun _ => rfl) (.inl rfl)
  · split at h <;> cases h
    · exact .idle (.inl rfl)
    · exact .modify i (fun _ => rfl) (.inl rfl)
  · rcases sendMessage_cases s.ch (s.nextRef, MemoryTraffic.requeued m) with
      ⟨-, hsend⟩ | ⟨hopen, hroom, hsend⟩ | ⟨-, -, hsend⟩
    all_goals
      rw [hsend] at h
      cases h
    · exact .modify i (fun _ => rfl) (.inl rfl)
    · exact .requeued (MemoryTraffic.requeued m) _ hopen hroom rfl
  · cases h

inductive CloseStep (s : State) : Close → Action → State → Close → Prop
  | begun (honce : s.closeOnce = .fresh) : CloseStep s .entered .proceed { s with closeOnce := .running } .marking
  | again (honce : s.closeOnce = .done) : CloseStep s .entered .proceed s (.returned (.returns none))
  | marked : CloseStep s .marking .proceed { s with closed := true } .draining
  | drained (hzero : ¬s.inFlight > 0) : CloseStep s .draining .proceed s .waiting
  | drainTimeout : CloseStep s .draining .giveUp s .waiting
  | waited (hzero : s.delayedWg = 0) : CloseStep s .waiting .proceed s .closingChannel
  | waitTimeout : CloseStep s .waiting .giveUp s .closingChannel
  | closed (hopen : s.ch.closed = false) :
      CloseStep s .closingChannel .proceed { s with ch := { s.ch with closed := true }, closeOnce := .done }
        (.returned (.returns none))
  | panicked (hclosed : s.ch.closed = true) :
      CloseStep s .closingChannel .proceed { s with closeOnce := .done } (.returned .panics)

lemma closeStep_of_stepClose {c c' : Close} (h : stepClose s c a = some (s', c')) :
    CloseStep s c a s' c' := by
  unfold stepClose at h
  split at h
  · split at h <;> cases h
    · exact .begun ‹_›
    · exact .again ‹_›
  · cases h
    exact .marked
  · split at h <;> cases h
    exact .drained ‹_›
  · cases h
    exact .drainTimeout
  · split at h <;> cases h
    exact .waited ‹_›
  · cases h
    exact .waitTimeout
  · cases hclosed : s.ch.closed <;> simp only [Chan.close, hclosed, if_true, Bool.false_eq_true, if_false] at h <;>
      cases h
    · exact .closed hclosed
    · exact .panicked hclosed
  · cases h

inductive ThreadStep (name : String) (s : State) : Thread → Action → State → Thread → Prop
  | tick (l : Thread) (d : Nat) : ThreadStep name s l (.tick d) { s with now := s.now + d } l
  | publish (p p' : Publish) (a : Action) (s' : State) (h : PublishStep name s p a s' p') :
      ThreadStep name s (.publish p) a s' (.publish p')
  | serve (l l' : Thread) (a : Action) (s' : State) (hl : l.serves = true) (hl' : l'.serves = true)
      (h : ServiceStep s l s' l') : ThreadStep name s l a s' l'
  | close (c c' : Close) (a : Action) (s' : State) (h : CloseStep s c a s' c') :
      ThreadStep name s (.close c) a s' (.close c')

lemma threadStep_of_stepThread {l l' : Thread} (h : stepThread name s a l = some (s', l')) :
    ThreadStep name s l a s' l' := by
  cases l with
  | publish p =>
    obtain ⟨r, hstep, heq⟩ := Option.map_eq_some_iff.mp h
    cases heq
    exact .publish p r.2 a r.1 (publishStep_of_stepPublish hstep)
  | worker autoAck w =>
    obtain ⟨r, hstep, heq⟩ := Option.map_eq_some_iff.mp h
    cases heq
    exact .serve _ _ a r.1 rfl rfl (serviceStep_of_stepWorker hstep)
  | receive k =>
    obtain ⟨r, hstep, heq⟩ := Option.map_eq_some_iff.mp h
    cases heq
    exact .serve _ _ a r.1 rfl rfl (serviceStep_of_stepReceive hstep)
  | settle i k =>
    obtain ⟨m, -, h⟩ := Option.bind_eq_some_iff.mp h
    obtain ⟨r, hstep, heq⟩ := Option.map_eq_some_iff.mp h
    cases heq
    exact .serve _ _ a r.1 rfl rfl (serviceStep_of_stepSettling hstep)
  | close c =>
    obtain ⟨r, hstep, heq⟩ := Option.map_eq_some_iff.mp h
    cases heq
    exact .close c r.2 a r.1 (closeStep_of_stepClose hstep)

lemma threadStep_of_step {l l' : Thread} (h : step name s l a = some (s', l')) :
    ThreadStep name s l a s' l' := by
  cases a with
  | tick d =>
    cases h
    exact .tick l d
  | _ => exact threadStep_of_stepThread h

lemma ThreadStep.publish_cases {l' : Thread} (h : ThreadStep name s (.publish p) a s' l') :
    ∃ p', l' = .publish p' ∧ (p' = p ∨ PublishStep name s p a s' p') := by
  cases h with
  | tick l d => exact ⟨p, rfl, .inl rfl⟩
  | publish p p' a s' h => exact ⟨p', rfl, .inr h⟩
  | serve l l' a s' hl => cases hl

inductive CallStep (s : State) : Request → State → Thread → Prop
  | publish (msg : Option Message) (opts : List PublishOption) (trace : Headers) :
      CallStep s (.publish msg opts trace) { s with nextRef := s.nextRef + 1 }
        (.publish { msg := msg, opts := opts, trace := trace, ref := s.nextRef })
  | serve (i : Request) (l : Thread) (hl : l.serves = true) (hheld : l.held = none) : CallStep s i s l
  | close : CallStep s .close s (.close .entered)

lemma callStep_of_request {i : Request} {l : Thread} (h : request s i = some (s', l)) : CallStep s i s' l := by
  cases i with
  | publish msg opts trace =>
    cases h
    exact .publish msg opts trace
  | worker autoAck | receive timeout =>
    cases h
    exact .serve _ _ rfl rfl
  | ack i | nack i requeue =>
    simp only [request, State.settlement] at h
    split at h
    · cases h
      exact .serve _ _ rfl rfl
    · cases h
  | close =>
    cases h
    exact .close

/-! ### What no step changes -/

/-- What only `Close` and the clock change; a message is placed on an open channel. -/
structure Frame (s s' : State) : Prop where
  now : s'.now = s.now
  closed : s'.closed = s.closed
  channelClosed : s'.ch.closed = s.ch.closed
  closeOnce : s'.closeOnce = s.closeOnce
  placements : s'.placements = s.placements ∨ s.ch.closed = false

lemma ItemStep.frame {i : Item} {r : Progress} (h : ItemStep s p i s' r) :
    Frame s s' ∧ s'.delayedWg = s.delayedWg := by
  cases h with
  | placed hopen hroom => exact ⟨⟨rfl, rfl, rfl, rfl, .inr hopen⟩, rfl⟩
  | _ => exact ⟨⟨rfl, rfl, rfl, rfl, .inl rfl⟩, rfl⟩

lemma PublishStep.frame (h : PublishStep name s p a s' p') : Frame s s' := by
  cases h with
  | caller i r hcaller s' hitem => exact hitem.frame.1
  | goroutine i r hdelayed s' hitem => exact hitem.frame.1
  | _ => exact ⟨rfl, rfl, rfl, rfl, .inl rfl⟩

lemma ServiceStep.frame {l l' : Thread} (h : ServiceStep s l s' l') :
    Frame s s' ∧ s'.delayedWg = s.delayedWg := by
  cases h with
  | took entry rest l' hbuffer hheld => exact ⟨⟨rfl, rfl, rfl, rfl, .inl rfl⟩, rfl⟩
  | requeued m l' hopen hroom hheld => exact ⟨⟨rfl, rfl, rfl, rfl, .inr hopen⟩, rfl⟩
  | kept handouts inFlight l' hrefs hheld => exact ⟨⟨rfl, rfl, rfl, rfl, .inl rfl⟩, rfl⟩

/-! ### What holds of every call -/

def Publish.Delays (name : String) (p : Publish) : Prop :=
  ∃ m, p.msg = some m ∧ (p.prepared name m).delay > 0

namespace Outcome

def isNil : Outcome → Bool
  | returns none => true
  | _ => false

def isPanic : Outcome → Bool
  | panics => true
  | _ => false

end Outcome

namespace Caller

def began : Caller → Bool
  | publishing _ => true
  | returning _ => true
  | returned r => r.isNil
  | _ => false

def returnsNil : Caller → Bool
  | returning r => r.isNil
  | returned r => r.isNil
  | _ => false

def panicked : Caller → Bool
  | returning r => r.isPanic
  | returned r => r.isPanic
  | _ => false

end Caller

def Delayed.panicked : Delayed → Bool
  | leaving r => r.isPanic
  | ended r => r.isPanic
  | _ => false

def Caller.early : Caller → Bool
  | entered => true
  | admitted => true
  | _ => false

structure Publish.Sound (name : String) (p : Publish) : Prop where
  undated : p.caller.early = true → p.ctx.deadline = none
  admitted : p.caller = .admitted → ∃ m, p.msg = some m
  spawned : p.delayed ≠ .absent → p.caller.returnsNil = true ∧ p.Delays name
  immediate : p.delayed = .absent → p.caller.began = true → ¬p.Delays name
  caller_calm : p.caller.panicked = false
  delayed_calm : p.delayed.panicked = false

lemma Publish.Sound.absent (h : p.Sound name) (hcaller : p.caller.returnsNil = false) : p.delayed = .absent := by
  by_contra hspawned
  rw [(h.spawned hspawned).1] at hcaller
  cases hcaller

lemma Publish.Sound.goroutine (h : p.Sound name) (hdelayed : p.delayed ≠ .absent) {d : Delayed}
    (hd : d ≠ .absent) (hcalm : d.panicked = false) : { p with delayed := d }.Sound name :=
  ⟨h.undated, h.admitted, fun _ => h.spawned hdelayed, fun habsent => absurd habsent hd, h.caller_calm, hcalm⟩

lemma Publish.Sound.step (h : p.Sound name) (hstep : PublishStep name s p a s' p') :
    p'.Sound name := by
  cases hstep with
  | invalid hcaller | refused m hcaller =>
    have habsent := h.absent (by rw [hcaller]; rfl)
    exact ⟨fun hearly => absurd hearly Bool.false_ne_true, Caller.noConfusion, fun hne => absurd habsent hne,
      fun _ hbegan => absurd hbegan Bool.false_ne_true, rfl, h.delayed_calm⟩
  | admitted m hcaller hmsg =>
    have habsent := h.absent (by rw [hcaller]; rfl)
    exact ⟨fun _ => h.undated (by rw [hcaller]; rfl), fun _ => ⟨m, hmsg⟩, fun hne => absurd habsent hne,
      fun _ hbegan => absurd hbegan Bool.false_ne_true, rfl, h.delayed_calm⟩
  | registered m hcaller hmsg hdelay =>
    exact ⟨fun hearly => absurd hearly Bool.false_ne_true, Caller.noConfusion,
      fun _ => ⟨rfl, m, hmsg, hdelay⟩, fun habsent => Delayed.noConfusion habsent, rfl, rfl⟩
  | started m hcaller hmsg hdelay =>
    have habsent := h.absent (by rw [hcaller]; rfl)
    refine ⟨fun hearly => absurd hearly Bool.false_ne_true, Caller.noConfusion, fun hne => absurd habsent hne,
      fun _ _ => ?_, rfl, h.delayed_calm⟩
    rintro ⟨m', hmsg', hdelay'⟩
    cases hmsg.symm.trans hmsg'
    exact hdelay hdelay'
  | caller i r hcaller s' hitem =>
    have habsent := h.absent (by rw [hcaller]; rfl)
    have hnot := h.immediate habsent (by rw [hcaller]; rfl)
    cases hitem with
    | _ =>
      exact ⟨fun hearly => absurd hearly Bool.false_ne_true, Caller.noConfusion, fun hne => absurd habsent hne,
        fun _ _ => hnot, rfl, h.delayed_calm⟩
  | returned r hcaller =>
    have hcalm := h.caller_calm
    have hnil := h.spawned
    rw [hcaller] at hcalm hnil
    exact ⟨fun hearly => absurd hearly Bool.false_ne_true, Caller.noConfusion, hnil,
      fun habsent _ => h.immediate habsent (by rw [hcaller]; rfl), hcalm, h.delayed_calm⟩
  | timer hdelayed =>
    exact h.goroutine (by rw [hdelayed]; exact Delayed.noConfusion) Delayed.noConfusion rfl
  | fired fires hdelayed =>
    exact h.goroutine (by rw [hdelayed]; exact Delayed.noConfusion) Delayed.noConfusion rfl
  | goroutine i r hdelayed s' hitem =>
    have hspawned : p.delayed ≠ .absent := by
      rw [hdelayed]
      exact Delayed.noConfusion
    cases hitem with
    | _ => exact h.goroutine hspawned Delayed.noConfusion rfl
  | left r hdelayed =>
    have hcalm := h.delayed_calm
    rw [hdelayed] at hcalm
    exact h.goroutine (by rw [hdelayed]; exact Delayed.noConfusion) Delayed.noConfusion hcalm
  | abandoned fires err hdelayed =>
    exact h.goroutine (by rw [hdelayed]; exact Delayed.noConfusion) Delayed.noConfusion rfl
  | cancelled => exact ⟨h.undated, h.admitted, h.spawned, h.immediate, h.caller_calm, h.delayed_calm⟩

def Thread.Sound (name : String) : Thread → Prop
  | publish p => p.Sound name
  | _ => True

lemma Thread.sound_of_serves {l : Thread} (h : l.serves = true) : l.Sound name := by
  cases l with
  | publish p => cases h
  | _ => trivial

lemma CallStep.sound {i : Request} {l : Thread} (h : CallStep s i s' l) : l.Sound name := by
  cases h with
  | publish msg opts trace =>
    exact ⟨fun _ => rfl, fun hadmitted => Caller.noConfusion hadmitted, fun hne => absurd rfl hne,
      fun _ hbegan => absurd hbegan Bool.false_ne_true, rfl, rfl⟩
  | serve i l hl hheld => exact Thread.sound_of_serves hl
  | close => trivial

lemma ThreadStep.sound {l l' : Thread} (h : ThreadStep name s l a s' l') (hl : l.Sound name) :
    l'.Sound name := by
  cases h with
  | tick l d => exact hl
  | publish p p' a s' h => exact Publish.Sound.step hl h
  | serve l l' a s' hserves hserves' h => exact Thread.sound_of_serves hserves'
  | close c c' a s' h => trivial

lemma preserves_sound : (program name).Preserves fun _ ls => ∀ l ∈ ls, l.Sound name :=
  Program.preserves_forall (fun hcall => (callStep_of_request hcall).sound)
    (fun hl hstep => (threadStep_of_step hstep).sound hl) (fun _ _ hmeet => by cases hmeet)

end MailBaby.MemoryTraffic
