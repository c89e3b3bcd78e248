import MailBaby.Logger.Async

/-!
# Flush points

At a flush point the asynchronous writer has nothing left in its channel or its batch only if the worker has
been stopped, and the first `Sync` stops it for good: what is logged later is refused.
-/

namespace MailBaby.Proofs

open Lib MailBaby.Log

namespace Flush

variable {u : Setup} {s t : State} {a : Action} {calls : List Call}
variable {c : LogCall} {past rest : List Call}

/-! ### What a step does -/

def Ready (s : State) : Prop := s.caller = .idle ∨ s.caller = .synced

inductive Moves (u : Setup) (s : State) : State → Prop
  | skip (c : LogCall) (rest : List Call) (hready : Ready s) (hcall : s.remaining = .log c :: rest)
      (hbelow : Call.recorded u (.log c) = false) :
      Moves u s { s with caller := .idle, past := s.past ++ [.log c], remaining := rest }
  | record (c : LogCall) (rest : List Call) (data : Bytes) (hready : Ready s) (hcall : s.remaining = .log c :: rest)
      (hrecorded : Call.recorded u (.log c) = true) :
      Moves u s
        { s with
          caller := .writing data (endingOf c.lvl c.msg)
          logged := s.logged ++ [data]
          past := s.past ++ [.log c]
          remaining := rest }
  | again (rest : List Call) (hready : Ready s) (hcall : s.remaining = .sync :: rest)
      (hclosed : u.bufferSize = none ∨ s.closed = true) :
      Moves u s { s with caller := .synced, past := s.past ++ [.sync], remaining := rest }
  | close (rest : List Call) (hready : Ready s) (hcall : s.remaining = .sync :: rest)
      (hasync : u.bufferSize ≠ none) (hopen : s.closed = false) :
      Moves u s { s with closed := true, caller := .stopping, past := s.past ++ [.sync], remaining := rest }
  | write (data : Bytes) (ending : Ending) (hcaller : s.caller = .writing data ending) (hsync : u.bufferSize = none) :
      Moves u s { s with written := s.written ++ [data], caller := .leaving ending }
  | refuse (data : Bytes) (ending : Ending) (hcaller : s.caller = .writing data ending)
      (hasync : u.bufferSize ≠ none) (hclosed : s.closed = true) :
      Moves u s { s with refused := s.refused ++ [data], caller := .leaving ending }
  | accept (data : Bytes) (ending : Ending) (hcaller : s.caller = .writing data ending)
      (hasync : u.bufferSize ≠ none) (hopen : s.closed = false) : Moves u s { s with caller := .sending data ending }
  | send (data : Bytes) (ending : Ending) (hcaller : s.caller = .sending data ending)
      (hroom : s.channel.length < channelSize (u.bufferSize.getD 0)) :
      Moves u s { s with channel := s.channel ++ [data], caller := .leaving ending }
  | full (data : Bytes) (ending : Ending) (hcaller : s.caller = .sending data ending)
      (hfull : channelSize (u.bufferSize.getD 0) ≤ s.channel.length) :
      Moves u s { s with caller := .direct data ending }
  | direct (data : Bytes) (ending : Ending) (hcaller : s.caller = .direct data ending) :
      Moves u s { s with written := s.written ++ [data], caller := .leaving ending }
  | leave (ending : Ending) (hcaller : s.caller = .leaving ending) (hlives : ∀ code, ending ≠ .exits code) :
      Moves u s { s with caller := .idle }
  | exit (code : Nat) (hcaller : s.caller = .leaving (.exits code)) : Moves u s { s with caller := .exited }
  | stop (hcaller : s.caller = .stopping) : Moves u s { s with stop := true, caller := .waiting }
  | synced (hcaller : s.caller = .waiting) (hdone : s.phase = .done) : Moves u s { s with caller := .synced }
  | receive (data : Bytes) (rest : List Bytes) (phase : Phase) (hasync : u.bufferSize ≠ none)
      (hchannel : s.channel = data :: rest)
      (hphase : s.phase = .running ∧ (phase = .flushing ∨ phase = .running) ∨
        s.phase = .draining ∧ (phase = .flushingDrained ∨ phase = .draining)) :
      Moves u s { s with channel := rest, batch := s.batch ++ [data], phase := phase }
  | tick (hphase : s.phase = .running) : Moves u s { s with phase := .flushing }
  | halt (hphase : s.phase = .running) (hstop : s.stop = true) : Moves u s { s with phase := .draining }
  | flush (phase : Phase)
      (hphase : s.phase = .flushing ∧ phase = .running ∨ s.phase = .flushingDrained ∧ phase = .draining ∨
        s.phase = .finishing ∧ phase = .done) :
      Moves u s { s with written := s.written ++ s.batch, batch := [], phase := phase }
  | empty (hphase : s.phase = .draining) (hchannel : s.channel = []) : Moves u s { s with phase := .finishing }

lemma result_of_recorded (h : Call.recorded u (.log c) = true) :
    ∃ line, u.result c = ⟨some line, endingOf c.lvl c.msg⟩ := by
  have hlevel : ¬c.lvl.rank < u.logger.level.rank := Nat.not_lt.mpr (of_decide_eq_true h)
  exact ⟨_, if_neg hlevel⟩

lemma result_of_not_recorded (h : Call.recorded u (.log c) = false) :
    (u.result c).written = none := by
  have hlevel : c.lvl.rank < u.logger.level.rank := Nat.lt_of_not_le (of_decide_eq_false h)
  exact congrArg LogResult.written (if_pos hlevel)

lemma moves_next (hready : Ready s) (h : s.next u = some t) : Moves u s t := by
  unfold State.next at h
  cases hcall : s.remaining with
  | nil =>
    rw [hcall] at h
    cases h
  | cons c rest =>
    rw [hcall] at h
    obtain rfl := Option.some.inj h
    cases c with
    | log c =>
      cases hrecorded : Call.recorded u (.log c) with
      | true =>
        obtain ⟨line, hline⟩ := result_of_recorded hrecorded
        have hbegin := Moves.record c rest (utf8 line) hready hcall hrecorded
        simpa only [State.begin, hline] using hbegin
      | false =>
        have hskip := Moves.skip c rest hready hcall hrecorded
        simpa only [State.begin, result_of_not_recorded hrecorded] using hskip
    | sync =>
      unfold State.begin
      dsimp only
      split <;> rename_i hclosed
      · exact .again rest hready hcall hclosed
      · obtain ⟨hasync, hopen⟩ := not_or.mp hclosed
        exact .close rest hready hcall hasync (Bool.eq_false_iff.mpr hopen)

lemma moves_stepCaller (h : s.stepCaller u = some t) : Moves u s t := by
  unfold State.stepCaller State.write State.send State.leave at h
  cases hcaller : s.caller <;> simp only [hcaller] at h
  case idle => exact moves_next (.inl hcaller) h
  case synced => exact moves_next (.inr hcaller) h
  case direct data ending =>
    cases h
    exact .direct data ending hcaller
  case leaving ending =>
    split at h <;> cases h
    · exact .exit _ hcaller
    · exact .leave ending hcaller ‹_›
  all_goals
    repeat' split at h
    all_goals cases h
    all_goals constructor <;> simp_all

lemma moves_stepWorker (hasync : u.bufferSize ≠ none) (h : s.stepWorker a = some t) : Moves u s t := by
  unfold State.stepWorker State.receive State.flush at h
  repeat' split at h
  all_goals cases h
  all_goals constructor <;> simp_all

lemma moves_step (h : s.step u a = some t) : Moves u s t := by
  unfold State.step at h
  cases a with
  | caller => exact moves_stepCaller h
  | _ =>
    dsimp only at h
    split at h <;> rename_i hlives
    · cases h
    · exact moves_stepWorker (fun hsync => hlives (.inl hsync)) h

/-! ### The records are accounted for -/

def hand : Caller → List Bytes
  | .writing data _ => [data]
  | .sending data _ => [data]
  | .direct data _ => [data]
  | _ => []

def Accounted (s : State) : Prop :=
  ∀ x, s.logged.count x =
    s.written.count x + s.batch.count x + s.channel.count x + (hand s.caller).count x + s.refused.count x

lemma hand_of_ready (h : Ready s) : hand s.caller = [] := by
  obtain hidle | hsynced := h
  · rw [hidle]
    rfl
  · rw [hsynced]
    rfl

lemma accounted_moves (hs : Accounted s) (h : Moves u s t) : Accounted t := by
  intro x
  have hx := hs x
  cases h with
  | skip c rest hready | again rest hready | close rest hready =>
    rw [hand_of_ready hready] at hx
    exact hx
  | record c rest data hready =>
    rw [hand_of_ready hready] at hx
    simp only [hand, List.count_append, List.count_nil] at hx ⊢
    omega
  | write data ending hcaller | direct data ending hcaller | send data ending hcaller
  | refuse data ending hcaller =>
    rw [hcaller] at hx
    simp only [hand, List.count_append, List.count_nil] at hx ⊢
    omega
  | accept data ending hcaller | full data ending hcaller | leave ending hcaller | exit code hcaller
  | stop hcaller | synced hcaller =>
    rw [hcaller] at hx
    exact hx
  | receive data rest phase hasync hchannel =>
    rw [hchannel] at hx
    simp only [List.count_append, List.count_cons, List.count_nil] at hx ⊢
    omega
  | flush phase =>
    simp only [List.count_append, List.count_nil] at hx ⊢
    omega
  | tick | halt | empty => exact hx

lemma perm_of_accounted (hs : Accounted s) (hbatch : s.batch = []) (hchannel : s.channel = [])
    (hhand : hand s.caller = []) (hrefused : s.refused = []) : s.logged.Perm s.written := by
  refine List.perm_iff_count.mpr fun x => ?_
  have hx := hs x
  rw [hbatch, hchannel, hhand, hrefused] at hx
  exact hx

lemma not_perm_of_accounted (hs : Accounted s) (hmissing : s.channel ≠ [] ∨ s.refused ≠ []) :
    ¬s.logged.Perm s.written := by
  intro hperm
  obtain ⟨x, hx⟩ : ∃ x, x ∈ s.channel ++ s.refused := by
    apply List.exists_mem_of_ne_nil
    rintro hnil
    obtain ⟨hchannel, hrefused⟩ := List.append_eq_nil_iff.mp hnil
    obtain hne | hne := hmissing
    · exact hne hchannel
    · exact hne hrefused
  have hpos := List.count_pos_iff.mpr hx
  rw [List.count_append] at hpos
  have hcount := hs x
  have hsame := hperm.count_eq x
  omega

/-! ### What holds all along -/

/-- The record is logged after a `Sync`. -/
def Late (u : Setup) (past : List Call) : Prop :=
  ∃ before after r, past = before ++ .sync :: after ∧ r ∈ after ∧ Call.recorded u r = true

lemma Late.append (h : Late u past) (c : Call) : Late u (past ++ [c]) := by
  obtain ⟨before, after, r, rfl, hr, hrecorded⟩ := h
  refine ⟨before, after ++ [c], r, ?_, List.mem_append_left _ hr, hrecorded⟩
  rw [List.append_assoc, List.cons_append]

lemma late_of_sync_mem {c : Call} (h : .sync ∈ past) (hc : Call.recorded u c = true) :
    Late u (past ++ [c]) := by
  obtain ⟨before, after, rfl⟩ := List.append_of_mem h
  refine ⟨before, after ++ [c], c, ?_, List.mem_append_right _ (List.mem_singleton_self c), hc⟩
  rw [List.append_assoc, List.cons_append]

def closing : Caller → Bool
  | .stopping => true
  | .waiting => true
  | _ => false

def stopped : Phase → Bool
  | .running => false
  | .flushing => false
  | _ => true

def Fatal (u : Setup) (past : List Call) (ending : Ending) : Prop :=
  ∀ code, ending = .exits code → ∃ c ∈ past, Call.exits u c = true

/-- What is known where the goroutine of the calls is. -/
def Holds (u : Setup) (closed : Bool) (past : List Call) : Caller → Prop
  | .idle => True
  | .writing _ ending => (closed = true → Late u past) ∧ Fatal u past ending
  | .sending _ ending | .direct _ ending => (closed = false ∧ u.bufferSize ≠ none) ∧ Fatal u past ending
  | .leaving ending => Fatal u past ending
  | .stopping | .waiting => closed = true ∧ ∃ before, past = before ++ [.sync]
  | .synced => (∃ before, past = before ++ [.sync]) ∧ (u.bufferSize ≠ none → closed = true)
  | .exited => ∃ c ∈ past, Call.exits u c = true

/-- The worker has stopped for good once the writer is closed, and leaves nothing behind. -/
structure Phased (s : State) : Prop where
  stop : stopped s.phase = true → s.stop = true
  closed : s.stop = true → s.closed = true
  rest : s.closed = true → closing s.caller = false → s.phase = .done
  drained : s.phase = .finishing ∨ s.phase = .done → s.channel = []
  flushed : s.phase = .done → s.batch = []

structure Sound (u : Setup) (calls : List Call) (s : State) : Prop where
  accounted : Accounted s
  phased : Phased s
  calls : s.past ++ s.remaining = calls
  direct : u.bufferSize = none → s.batch = [] ∧ s.channel = [] ∧ s.refused = []
  caller : Holds u s.closed s.past s.caller
  syncs : s.closed = true → .sync ∈ s.past
  refused : s.refused ≠ [] → Late u s.past

lemma calls_next {c : Call} (hs : s.past ++ s.remaining = calls)
    (hcall : s.remaining = c :: rest) : s.past ++ [c] ++ rest = calls := by
  rw [← hs, hcall, List.append_assoc]
  rfl

lemma not_closing_of_ready (h : Ready s) : closing s.caller = false := by
  obtain hidle | hsynced := h
  · rw [hidle]
    rfl
  · rw [hsynced]
    rfl

lemma exits_of_endingOf {code : Nat} (hrecorded : Call.recorded u (.log c) = true)
    (h : endingOf c.lvl c.msg = .exits code) : Call.exits u (.log c) = true := by
  cases hlvl : c.lvl <;> rw [hlvl] at h
  case fatal => simpa [Call.recorded, Call.exits, hlvl] using hrecorded
  all_goals cases h

lemma phased_moves (hs : Phased s) (hholds : Holds u s.closed s.past s.caller) (h : Moves u s t) : Phased t := by
  obtain ⟨hstop, hclosed, hrest, hdrained, hflushed⟩ := hs
  cases h with
  | send data ending hcaller hroom =>
    -- the writer is open, so that the worker still runs
    rw [hcaller] at hholds
    have hopen : ¬s.closed = true := Bool.eq_false_iff.mp hholds.1.1
    refine ⟨hstop, hclosed, fun h => absurd h hopen, fun hphase => ?_, hflushed⟩
    refine absurd (hclosed (hstop ?_)) hopen
    obtain hfinishing | hdone := hphase
    · exact hfinishing ▸ rfl
    · exact hdone ▸ rfl
  | skip c rest hready | record c rest data hready | again rest hready =>
    exact ⟨hstop, hclosed, fun h _ => hrest h (not_closing_of_ready hready), hdrained, hflushed⟩
  | write data ending hcaller | direct data ending hcaller | refuse data ending hcaller
  | accept data ending hcaller | full data ending hcaller | leave ending hcaller | exit code hcaller =>
    exact ⟨hstop, hclosed, fun h _ => hrest h (hcaller ▸ rfl), hdrained, hflushed⟩
  | _ => constructor <;> grind [closing, stopped, Holds]

lemma sound_moves (hs : Sound u calls s) (h : Moves u s t) : Sound u calls t := by
  have haccounted := accounted_moves hs.accounted h
  have hphased := phased_moves hs.phased hs.caller h
  obtain ⟨-, -, hcalls, hdirect, hholds, hsyncs, hrefused⟩ := hs
  cases h with
  | skip c rest hready hcall =>
    exact ⟨haccounted, hphased, calls_next hcalls hcall, hdirect, trivial,
      fun h => List.mem_append_left _ (hsyncs h), fun h => (hrefused h).append _⟩
  | record c rest data hready hcall hrecorded =>
    refine ⟨haccounted, hphased, calls_next hcalls hcall, hdirect, ⟨?_, fun _ hending => ?_⟩,
      fun h => List.mem_append_left _ (hsyncs h), fun h => (hrefused h).append _⟩
    · exact fun h => late_of_sync_mem (hsyncs h) hrecorded
    · exact ⟨.log c, List.mem_append_right _ (List.mem_singleton_self _), exits_of_endingOf hrecorded hending⟩
  | again rest hready hcall hclosed =>
    exact ⟨haccounted, hphased, calls_next hcalls hcall, hdirect, ⟨⟨_, rfl⟩, hclosed.resolve_left⟩,
      fun _ => List.mem_append_right _ (List.mem_singleton_self _), fun h => (hrefused h).append _⟩
  | close rest hready hcall hasync hopen =>
    exact ⟨haccounted, hphased, calls_next hcalls hcall, hdirect, ⟨rfl, _, rfl⟩,
      fun _ => List.mem_append_right _ (List.mem_singleton_self _), fun h => (hrefused h).append _⟩
  | receive data rest phase hasync hchannel hphase =>
    exact ⟨haccounted, hphased, hcalls, fun hsync => absurd hsync hasync, hholds, hsyncs, hrefused⟩
  | flush phase hphase =>
    exact ⟨haccounted, hphased, hcalls, fun hsync => ⟨rfl, (hdirect hsync).2⟩, hholds, hsyncs, hrefused⟩
  | tick | halt | empty => exact ⟨haccounted, hphased, hcalls, hdirect, hholds, hsyncs, hrefused⟩
  | write data ending hcaller | direct data ending hcaller =>
    rw [hcaller] at hholds
    exact ⟨haccounted, hphased, hcalls, hdirect, hholds.2, hsyncs, hrefused⟩
  | refuse data ending hcaller hasync hclosed =>
    rw [hcaller] at hholds
    exact ⟨haccounted, hphased, hcalls, fun hsync => absurd hsync hasync, hholds.2, hsyncs, fun _ => hholds.1 hclosed⟩
  | accept data ending hcaller hasync hopen =>
    rw [hcaller] at hholds
    exact ⟨haccounted, hphased, hcalls, hdirect, ⟨⟨hopen, hasync⟩, hholds.2⟩, hsyncs, hrefused⟩
  | send data ending hcaller hroom =>
    rw [hcaller] at hholds
    exact ⟨haccounted, hphased, hcalls, fun hsync => absurd hsync hholds.1.2, hholds.2, hsyncs, hrefused⟩
  | full data ending hcaller | stop hcaller =>
    rw [hcaller] at hholds
    exact ⟨haccounted, hphased, hcalls, hdirect, hholds, hsyncs, hrefused⟩
  | leave => exact ⟨haccounted, hphased, hcalls, hdirect, trivial, hsyncs, hrefused⟩
  | exit code hcaller =>
    rw [hcaller] at hholds
    exact ⟨haccounted, hphased, hcalls, hdirect, hholds code rfl, hsyncs, hrefused⟩
  | synced hcaller hdone =>
    rw [hcaller] at hholds
    exact ⟨haccounted, hphased, hcalls, hdirect, ⟨hholds.2, fun _ => hholds.1⟩, hsyncs, hrefused⟩

lemma sound_run {schedule : List Action} (h : run (State.step u) (State.start calls) schedule = some s) :
    Sound u calls s := by
  refine run_invariant (I := Sound u calls) (fun _ _ _ hs h => sound_moves hs (moves_step h)) ?_ h
  have hphased : Phased (State.start calls) := by constructor <;> simp [State.start, stopped]
  exact ⟨fun _ => rfl, hphased, rfl, fun _ => ⟨rfl, rfl, rfl⟩, trivial, fun h => (Bool.false_ne_true h).elim,
    fun h => absurd rfl h⟩

/-- What the calls must not do: end the process, or log a record between two flushes. -/
def Harmless (u : Setup) (calls : List Call) : Prop :=
  (∀ c ∈ calls, Call.exits u c = false) ∧
    ∀ before between after, calls = before ++ .sync :: (between ++ .sync :: after) →
      ∀ r ∈ between, Call.recorded u r = false

lemma not_late_of_harmless (hcalls : Harmless u calls) (hs : Sound u calls s)
    (hlast : ∃ before, s.past = before ++ [.sync]) : ¬Late u s.past := by
  rintro ⟨before, after, r, hpast, hr, hrecorded⟩
  obtain ⟨whole, hwhole⟩ := hlast
  have hne : after ≠ [] := List.ne_nil_of_mem hr
  obtain ⟨between, last, rfl⟩ : ∃ between last, after = between ++ [last] :=
    ⟨_, _, (List.dropLast_append_getLast hne).symm⟩
  have hends : before ++ .sync :: between ++ [last] = whole ++ [.sync] := by
    rw [← hwhole, hpast, List.append_assoc, List.cons_append]
  obtain ⟨-, hlast⟩ := List.append_inj' hends rfl
  obtain rfl : last = .sync := List.singleton_inj.mp hlast
  have hbetween : r ∈ between := by
    obtain hmem | hmem := List.mem_append.mp hr
    · exact hmem
    · rw [List.mem_singleton.mp hmem] at hrecorded
      cases hrecorded
  have hsplit : calls = before ++ .sync :: (between ++ .sync :: s.remaining) := by
    rw [← hs.calls, hpast]
    simp
  rw [hcalls.2 before between s.remaining hsplit r hbetween] at hrecorded
  cases hrecorded

lemma flushPointsFlush_of_harmless (hcalls : u.bufferSize = none ∨ Harmless u calls) : FlushPointsFlush u calls := by
  intro schedule s hrun hpoint
  have hs := sound_run hrun
  have hhand : hand s.caller = [] := by
    obtain hcaller | hcaller := hpoint
    · rw [hcaller]
      rfl
    · rw [hcaller]
      rfl
  by_cases hsync : u.bufferSize = none
  · obtain ⟨hbatch, hchannel, hrefused⟩ := hs.direct hsync
    exact perm_of_accounted hs.accounted hbatch hchannel hhand hrefused
  · have hharmless := hcalls.resolve_left hsync
    have hholds := hs.caller
    obtain hcaller | hcaller := hpoint
    · rw [hcaller] at hholds
      obtain ⟨hlast, hclosed⟩ := hholds
      have hdone := hs.phased.rest (hclosed hsync) (hcaller ▸ rfl)
      refine perm_of_accounted hs.accounted (hs.phased.flushed hdone) (hs.phased.drained (.inr hdone)) hhand ?_
      exact not_not.mp fun hrefused => not_late_of_harmless hharmless hs hlast (hs.refused hrefused)
    · rw [hcaller] at hholds
      obtain ⟨c, hc, hexits⟩ := hholds
      have hmem : c ∈ calls := by
        rw [← hs.calls]
        exact List.mem_append_left _ hc
      rw [hharmless.1 c hmem] at hexits
      cases hexits

/-! ### Schedules that lose records -/

lemma reaches_caller (h : s.stepCaller u = some t) : Reaches (State.step u) s t :=
  Reaches.single (a := .caller) h

lemma reaches_worker (hasync : u.bufferSize ≠ none) (hlives : s.caller ≠ .exited) (ha : a ≠ .caller)
    (h : s.stepWorker a = some t) : Reaches (State.step u) s t := by
  refine Reaches.single (a := a) ?_
  have hnot : ¬(u.bufferSize = none ∨ s.caller = .exited) := not_or.mpr ⟨hasync, hlives⟩
  cases a with
  | caller => exact absurd rfl ha
  | _ => exact (if_neg hnot).trans h

lemma stepCaller_of_ready (h : Ready s) : s.stepCaller u = s.next u := by
  unfold State.stepCaller
  obtain hcaller | hcaller := h
  · rw [hcaller]
  · rw [hcaller]

structure Same (s t : State) : Prop where
  past : t.past = s.past
  remaining : t.remaining = s.remaining
  closed : t.closed = s.closed
  phase : t.phase = s.phase

lemma exists_record (hready : Ready s) (hcall : s.remaining = .log c :: rest)
    (hrecorded : Call.recorded u (.log c) = true) :
    ∃ t data, Reaches (State.step u) s t ∧ t.caller = .writing data (endingOf c.lvl c.msg) ∧
      t.past = s.past ++ [.log c] ∧ t.remaining = rest ∧ t.closed = s.closed ∧ t.phase = s.phase := by
  obtain ⟨line, hline⟩ := result_of_recorded hrecorded
  refine ⟨{ s with
      caller := .writing (utf8 line) (endingOf c.lvl c.msg)
      logged := s.logged ++ [utf8 line]
      past := s.past ++ [.log c]
      remaining := rest }, utf8 line, reaches_caller ((stepCaller_of_ready hready).trans ?_), rfl, rfl, rfl, rfl, rfl⟩
  simp only [State.next, hcall, State.begin, hline]

lemma channelSize_pos (bufferSize : Int) : 0 < channelSize bufferSize := by
  unfold channelSize
  split <;> omega

lemma exists_leaving {data : Bytes} {ending : Ending} (hasync : u.bufferSize ≠ none)
    (hcaller : s.caller = .writing data ending) (hopen : s.closed = false) :
    ∃ t, Reaches (State.step u) s t ∧ t.caller = .leaving ending ∧ Same s t ∧ t.channel ≠ [] := by
  have hadmit : Reaches (State.step u) s { s with caller := .sending data ending } := by
    apply reaches_caller
    simp only [State.stepCaller, hcaller, State.write, if_neg hasync, hopen, Bool.false_eq_true, if_false]
  by_cases hroom : s.channel.length < channelSize (u.bufferSize.getD 0)
  · refine ⟨{ s with channel := s.channel ++ [data], caller := .leaving ending }, hadmit.trans (reaches_caller ?_),
      rfl, ⟨rfl, rfl, rfl, rfl⟩, List.append_ne_nil_of_right_ne_nil _ (List.cons_ne_nil data [])⟩
    simp only [State.stepCaller, State.send, if_pos hroom]
  · have hfull : Reaches (State.step u) s { s with caller := .direct data ending } := by
      refine hadmit.trans (reaches_caller ?_)
      simp only [State.stepCaller, State.send, if_neg hroom]
    refine ⟨{ s with written := s.written ++ [data], caller := .leaving ending },
      hfull.trans (reaches_caller rfl), rfl, ⟨rfl, rfl, rfl, rfl⟩, ?_⟩
    have hpos := channelSize_pos (u.bufferSize.getD 0)
    exact List.ne_nil_of_length_pos (by dsimp only; omega)

lemma exists_refused {data : Bytes} {ending : Ending} (hasync : u.bufferSize ≠ none)
    (hcaller : s.caller = .writing data ending) (hclosed : s.closed = true) :
    ∃ t, Reaches (State.step u) s t ∧ t.caller = .leaving ending ∧ Same s t ∧ t.refused ≠ [] := by
  refine ⟨{ s with refused := s.refused ++ [data], caller := .leaving ending }, reaches_caller ?_, rfl,
    ⟨rfl, rfl, rfl, rfl⟩, List.append_ne_nil_of_right_ne_nil _ (List.cons_ne_nil data [])⟩
  simp only [State.stepCaller, hcaller, State.write, if_neg hasync, hclosed, if_true]

lemma exists_done (hasync : u.bufferSize ≠ none) (hcaller : s.caller = .waiting) (hphase : s.phase = .draining) :
    ∃ t, Reaches (State.step u) s t ∧ t.phase = .done ∧ t.caller = .waiting ∧ t.past = s.past ∧
      t.remaining = s.remaining ∧ t.closed = s.closed := by
  have hlives : ∀ {s : State}, s.caller = .waiting → s.caller ≠ .exited := by
    intro s hwaiting hexited
    cases hwaiting.symm.trans hexited
  induction hchannel : s.channel generalizing s with
  | nil =>
    have hempty : Reaches (State.step u) s { s with phase := .finishing } := by
      refine reaches_worker (a := .empty) hasync (hlives hcaller) (by decide) ?_
      exact if_pos ⟨hphase, hchannel⟩
    refine ⟨_, hempty.trans (reaches_worker (a := .flush) hasync (hlives hcaller) (by decide) rfl), rfl, hcaller,
      rfl, rfl, rfl⟩
  | cons data rest ih =>
    have hreceive : ∀ phase, (if flushLimit < (s.batch ++ [data]).flatten.length then Phase.flushingDrained
        else .draining) = phase →
        Reaches (State.step u) s { s with channel := rest, batch := s.batch ++ [data], phase := phase } := by
      rintro phase rfl
      refine reaches_worker (a := .receive) hasync (hlives hcaller) (by decide) ?_
      simp only [State.stepWorker, hphase, State.receive, hchannel]
    obtain ⟨r, hr, hwaiting, hdraining, hrest, hpast, hremaining, hclosed⟩ : ∃ r, Reaches (State.step u) s r ∧
        r.caller = .waiting ∧ r.phase = .draining ∧ r.channel = rest ∧ r.past = s.past ∧
        r.remaining = s.remaining ∧ r.closed = s.closed := by
      by_cases hlimit : flushLimit < (s.batch ++ [data]).flatten.length
      · refine ⟨_, (hreceive .flushingDrained (if_pos hlimit)).trans
          (reaches_worker (a := .flush) hasync (hlives hcaller) (by decide) rfl), hcaller, rfl, rfl, rfl, rfl, rfl⟩
      · exact ⟨_, hreceive .draining (if_neg hlimit), hcaller, rfl, rfl, rfl, rfl, rfl⟩
    obtain ⟨t, ht, hdone, hcaller', hpast', hremaining', hclosed'⟩ := ih hwaiting hdraining hrest
    exact ⟨t, hr.trans ht, hdone, hcaller', hpast'.trans hpast, hremaining'.trans hremaining, hclosed'.trans hclosed⟩

lemma exists_synced (hasync : u.bufferSize ≠ none) (hready : Ready s)
    (hcall : s.remaining = .sync :: rest) (hopen : s.closed = false) (hphase : s.phase = .running) :
    ∃ t, Reaches (State.step u) s t ∧ t.caller = .synced ∧ t.past = s.past ++ [.sync] ∧ t.remaining = rest ∧
      t.closed = true ∧ t.phase = .done := by
  have hclose : Reaches (State.step u) s
      { s with closed := true, caller := .stopping, past := s.past ++ [.sync], remaining := rest } := by
    refine reaches_caller ((stepCaller_of_ready hready).trans ?_)
    simp only [State.next, hcall, State.begin, hasync, hopen, Bool.false_eq_true, or_self, if_false]
  have hstop : Reaches (State.step u) s
      { s with closed := true, caller := .waiting, past := s.past ++ [.sync], remaining := rest, stop := true } :=
    hclose.trans (reaches_caller rfl)
  obtain ⟨r, hr, hwaiting, hdraining, hpast, hremaining, hclosed⟩ : ∃ r, Reaches (State.step u) s r ∧
      r.caller = .waiting ∧ r.phase = .draining ∧ r.past = s.past ++ [.sync] ∧ r.remaining = rest ∧
      r.closed = true := by
    refine ⟨_, hstop.trans (reaches_worker (a := .stop) hasync Caller.noConfusion (by decide) (if_pos ⟨hphase, rfl⟩)),
      rfl, rfl, rfl, rfl, rfl⟩
  obtain ⟨t, ht, hdone, hwaiting', hpast', hremaining', hclosed'⟩ := exists_done hasync hwaiting hdraining
  refine ⟨{ t with caller := .synced }, (hr.trans ht).trans (reaches_caller ?_), rfl, hpast'.trans hpast,
    hremaining'.trans hremaining, hclosed'.trans hclosed, hdone⟩
  simp only [State.stepCaller, hwaiting', if_pos hdone]

lemma late_append_iff {c : Call} :
    Late u (past ++ [c]) ↔ Late u past ∨ .sync ∈ past ∧ Call.recorded u c = true := by
  constructor
  · rintro ⟨before, after, r, hpast, hr, hrecorded⟩
    obtain ⟨between, last, rfl⟩ : ∃ between last, after = between ++ [last] :=
      ⟨_, _, (List.dropLast_append_getLast (List.ne_nil_of_mem hr)).symm⟩
    have hends : past ++ [c] = before ++ .sync :: between ++ [last] := by
      rw [hpast, List.append_assoc, List.cons_append]
    obtain ⟨rfl, hlast⟩ := List.append_inj' hends rfl
    obtain rfl := List.singleton_inj.mp hlast
    obtain hmem | hmem := List.mem_append.mp hr
    · exact .inl ⟨before, between, r, rfl, hmem, hrecorded⟩
    · rw [List.mem_singleton.mp hmem] at hrecorded
      exact .inr ⟨List.mem_append_right _ List.mem_cons_self, hrecorded⟩
  · rintro (hlate | ⟨hmem, hrecorded⟩)
    · exact hlate.append c
    · exact late_of_sync_mem hmem hrecorded

/-- The state between two calls, as the calls so far leave it when the worker only acts in a flush. -/
structure Placed (u : Setup) (made rest : List Call) (s : State) : Prop where
  past : s.past = made
  remaining : s.remaining = rest
  ready : Ready s
  shut : .sync ∈ made → s.closed = true ∧ s.phase = .done
  opened : .sync ∉ made → s.closed = false ∧ s.phase = .running
  late : Late u made → s.refused ≠ []

lemma refused_of_reaches (h : Reaches (State.step u) s t) (hs : s.refused ≠ []) : t.refused ≠ [] := by
  obtain ⟨schedule, hrun⟩ := h
  refine run_invariant (I := fun s => s.refused ≠ []) (fun s a t hs h => ?_) hs hrun
  cases moves_step h with
  | refuse => exact List.append_ne_nil_of_left_ne_nil hs _
  | _ => exact hs

lemma sync_mem_append_log : .sync ∈ past ++ [.log c] ↔ .sync ∈ past := by
  simp

lemma leave_of_lives (hrecorded : Call.recorded u (.log c) = true)
    (hlives : Call.exits u (.log c) = false) (hcaller : s.caller = .leaving (endingOf c.lvl c.msg)) :
    s.stepCaller u = some { s with caller := .idle } := by
  cases hending : endingOf c.lvl c.msg with
  | exits code =>
    rw [exits_of_endingOf hrecorded hending] at hlives
    cases hlives
  | returns => simp only [State.stepCaller, hcaller, hending, State.leave]
  | panics msg => simp only [State.stepCaller, hcaller, hending, State.leave]

lemma Late.sync_mem (h : Late u past) : .sync ∈ past := by
  obtain ⟨before, after, r, rfl, -⟩ := h
  exact List.mem_append_right _ List.mem_cons_self

lemma exists_logged (hasync : u.bufferSize ≠ none)
    (hs : Placed u past (.log c :: rest) s) (hrecorded : Call.recorded u (.log c) = true) :
    ∃ t, Reaches (State.step u) s t ∧ t.caller = .leaving (endingOf c.lvl c.msg) ∧
      t.past = past ++ [.log c] ∧ t.remaining = rest ∧ t.closed = s.closed ∧ t.phase = s.phase ∧
      (.sync ∈ past → t.refused ≠ []) ∧ (.sync ∉ past → t.channel ≠ []) := by
  obtain ⟨r, data, hr, hcaller, hpast, hremaining, hclosed, hphase⟩ := exists_record hs.ready hs.remaining hrecorded
  rw [hs.past] at hpast
  by_cases hmem : .sync ∈ past
  · obtain ⟨t, ht, hleaving, hsame, hrefused⟩ :=
      exists_refused hasync hcaller (hclosed.trans (hs.shut hmem).1)
    exact ⟨t, hr.trans ht, hleaving, hsame.past.trans hpast, hsame.remaining.trans hremaining,
      hsame.closed.trans hclosed, hsame.phase.trans hphase, fun _ => hrefused, fun hnot => absurd hmem hnot⟩
  · obtain ⟨t, ht, hleaving, hsame, hchannel⟩ :=
      exists_leaving hasync hcaller (hclosed.trans (hs.opened hmem).1)
    exact ⟨t, hr.trans ht, hleaving, hsame.past.trans hpast, hsame.remaining.trans hremaining,
      hsame.closed.trans hclosed, hsame.phase.trans hphase, fun h => absurd h hmem, fun _ => hchannel⟩

lemma exists_placed {c : Call} (hasync : u.bufferSize ≠ none)
    (hs : Placed u past (c :: rest) s) (hlives : Call.exits u c = false) :
    ∃ t, Reaches (State.step u) s t ∧ Placed u (past ++ [c]) rest t := by
  cases c with
  | sync =>
    by_cases hmem : .sync ∈ past
    · obtain ⟨hclosed, hdone⟩ := hs.shut hmem
      have hstep : Reaches (State.step u) s
          { s with caller := .synced, past := s.past ++ [.sync], remaining := rest } := by
        refine reaches_caller ((stepCaller_of_ready hs.ready).trans ?_)
        simp only [State.next, hs.remaining, State.begin, hclosed, or_true, if_true]
      refine ⟨_, hstep, congrArg (· ++ [.sync]) hs.past, rfl, .inr rfl, fun _ => ⟨hclosed, hdone⟩, ?_, ?_⟩
      · exact fun hnot => absurd (List.mem_append_left _ hmem) hnot
      · intro hlate
        obtain hlate | ⟨-, hrecorded⟩ := late_append_iff.mp hlate
        · exact hs.late hlate
        · cases hrecorded
    · obtain ⟨hopen, hrunning⟩ := hs.opened hmem
      obtain ⟨t, ht, hcaller, hpast, hremaining, hclosed, hdone⟩ :=
        exists_synced hasync hs.ready hs.remaining hopen hrunning
      refine ⟨t, ht, hs.past ▸ hpast, hremaining, .inr hcaller, fun _ => ⟨hclosed, hdone⟩, ?_, ?_⟩
      · exact fun hnot => absurd (List.mem_append_right _ (List.mem_singleton_self _)) hnot
      · intro hlate
        obtain hlate | ⟨-, hrecorded⟩ := late_append_iff.mp hlate
        · exact refused_of_reaches ht (hs.late hlate)
        · cases hrecorded
  | log c =>
    cases hrecorded : Call.recorded u (.log c) with
    | false =>
      have hstep : Reaches (State.step u) s
          { s with caller := .idle, past := s.past ++ [.log c], remaining := rest } := by
        refine reaches_caller ((stepCaller_of_ready hs.ready).trans ?_)
        simp only [State.next, hs.remaining, State.begin, result_of_not_recorded hrecorded]
      refine ⟨_, hstep, congrArg (· ++ [.log c]) hs.past, rfl, .inl rfl, ?_, ?_, ?_⟩
      · exact fun hmem => hs.shut (sync_mem_append_log.mp hmem)
      · exact fun hnot => hs.opened fun hmem => hnot (sync_mem_append_log.mpr hmem)
      · intro hlate
        obtain hlate | ⟨-, hyes⟩ := late_append_iff.mp hlate
        · exact hs.late hlate
        · rw [hrecorded] at hyes
          cases hyes
    | true =>
      obtain ⟨t, ht, hcaller, hpast, hremaining, hclosed, hphase, hrefused, -⟩ := exists_logged hasync hs hrecorded
      refine ⟨{ t with caller := .idle }, ht.trans (reaches_caller (leave_of_lives hrecorded hlives hcaller)), hpast,
        hremaining, .inl rfl, ?_, ?_, ?_⟩
      · intro hmem
        obtain ⟨hclosed', hdone⟩ := hs.shut (sync_mem_append_log.mp hmem)
        exact ⟨hclosed.trans hclosed', hphase.trans hdone⟩
      · intro hnot
        obtain ⟨hopen, hrunning⟩ := hs.opened fun hmem => hnot (sync_mem_append_log.mpr hmem)
        exact ⟨hclosed.trans hopen, hphase.trans hrunning⟩
      · intro hlate
        exact hrefused (sync_mem_append_log.mp hlate.sync_mem)

lemma exists_placed_calls (hasync : u.bufferSize ≠ none) (made rest : List Call)
    (hlives : ∀ c ∈ made, Call.exits u c = false) :
    ∃ s, Reaches (State.step u) (State.start (made ++ rest)) s ∧ Placed u made rest s := by
  induction made using List.reverseRecOn generalizing rest with
  | nil =>
    refine ⟨_, Reaches.refl _, rfl, rfl, .inl rfl, ?_, fun _ => ⟨rfl, rfl⟩, ?_⟩
    · exact fun hmem => (List.not_mem_nil hmem).elim
    · exact fun hlate => (List.not_mem_nil hlate.sync_mem).elim
  | append_singleton made c ih =>
    obtain ⟨s, hs, hplaced⟩ := ih (c :: rest) fun d hd => hlives d (List.mem_append_left _ hd)
    obtain ⟨t, ht, hplaced'⟩ :=
      exists_placed hasync hplaced (hlives c (List.mem_append_right _ (List.mem_singleton_self c)))
    refine ⟨t, ?_, hplaced'⟩
    rw [List.append_assoc]
    exact hs.trans ht

lemma not_flushed_of_between (before between after : List Call) (hasync : u.bufferSize ≠ none)
    (hcalls : calls = before ++ .sync :: (between ++ .sync :: after)) (hlives : ∀ c ∈ calls, Call.exits u c = false)
    {r : Call} (hr : r ∈ between) (hrecorded : Call.recorded u r = true) : ¬FlushPointsFlush u calls := by
  intro hflush
  have hsplit : calls = (before ++ .sync :: between) ++ .sync :: after := by
    rw [hcalls, List.append_assoc, List.cons_append]
  obtain ⟨s, hs, hplaced⟩ := exists_placed_calls hasync (before ++ .sync :: between) (.sync :: after)
    fun c hc => hlives c (hsplit ▸ List.mem_append_left _ hc)
  have hlate : Late u (before ++ .sync :: between) := ⟨before, between, r, rfl, hr, hrecorded⟩
  have hstep : Reaches (State.step u) s { s with caller := .synced, past := s.past ++ [.sync], remaining := after } := by
    refine reaches_caller ((stepCaller_of_ready hplaced.ready).trans ?_)
    simp only [State.next, hplaced.remaining, State.begin, (hplaced.shut hlate.sync_mem).1, or_true, if_true]
  obtain ⟨schedule, hrun⟩ := hs.trans hstep
  rw [← hsplit] at hrun
  exact not_perm_of_accounted (sound_run hrun).accounted (.inr (hplaced.late hlate))
    (hflush schedule _ hrun (.inl rfl))

lemma not_flushed_of_exits (hasync : u.bufferSize ≠ none) {c : Call} (hc : c ∈ calls)
    (hexits : Call.exits u c = true) : ¬FlushPointsFlush u calls := by
  intro hflush
  obtain ⟨d, hd⟩ := Option.isSome_iff_exists.mp (List.find?_isSome.mpr ⟨c, hc, hexits⟩)
  obtain ⟨hexits', made, rest, hsplit, hlives⟩ := List.find?_eq_some_iff_append.mp hd
  obtain ⟨s, hs, hplaced⟩ := exists_placed_calls hasync made (d :: rest) fun c hc => by simpa using hlives c hc
  cases d with
  | sync => cases hexits'
  | log c =>
    obtain ⟨hrecorded, hfatal⟩ := Bool.and_eq_true_iff.mp hexits'
    obtain ⟨t, ht, hcaller, -, -, -, -, hrefused, hchannel⟩ := exists_logged hasync hplaced hrecorded
    rw [of_decide_eq_true hfatal] at hcaller
    have hexit : Reaches (State.step u) t { t with caller := .exited } := by
      apply reaches_caller
      simp only [State.stepCaller, hcaller, endingOf, State.leave]
    obtain ⟨schedule, hrun⟩ := (hs.trans ht).trans hexit
    rw [← hsplit] at hrun
    refine not_perm_of_accounted (sound_run hrun).accounted ?_ (hflush schedule _ hrun (.inr rfl))
    by_cases hmem : .sync ∈ made
    · exact .inr (hrefused hmem)
    · exact .inl (hchannel hmem)

end Flush

open Flush

/-- The flush points flush exactly if the writer is synchronous, or no call ends the process and none logs a
record between two flushes. -/
theorem flush_points_iff (u : Setup) (calls : List Call) :
    FlushPointsFlush u calls ↔ u.bufferSize = none ∨ Harmless u calls := by
  constructor
  · intro hflush
    by_cases hsync : u.bufferSize = none
    · exact .inl hsync
    · have hlives : ∀ c ∈ calls, Call.exits u c = false := fun c hc =>
        Bool.eq_false_iff.mpr fun hexits => not_flushed_of_exits hsync hc hexits hflush
      refine .inr ⟨hlives, fun before between after hcalls r hr => ?_⟩
      exact Bool.eq_false_iff.mpr fun hrecorded =>
        not_flushed_of_between before between after hsync hcalls hlives hr hrecorded hflush
  · exact flushPointsFlush_of_harmless

def plainCall (lvl : Level) (msg : String) : Call := .log { env := { format := fun _ => "" }, lvl := lvl, msg := msg }

def asyncSetup : Setup := { bufferSize := some 4096 }

def shutdownCalls : List Call :=
  [plainCall .info "closing", .sync, plainCall .info "graceful shutdown completed cleanly", .sync]

/-- The second record of the shutdown is refused. A fatal record is still in the channel when the process
ends. -/
theorem flush_points_lose_records :
    (run (State.step asyncSetup) (State.start shutdownCalls)
        [.caller, .caller, .caller, .caller, .caller, .caller, .stop, .receive, .empty, .flush, .caller, .caller,
          .caller, .caller, .caller]).map (fun s => (s.caller, s.logged.length, s.written.length)) =
        some (.synced, 2, 1) ∧
      (run (State.step asyncSetup) (State.start [plainCall .fatal "no configuration"])
        [.caller, .caller, .caller, .caller]).map (fun s => (s.caller, s.logged.length, s.written.length)) =
        some (.exited, 1, 0) ∧
      ¬FlushPointsFlush asyncSetup shutdownCalls ∧
      ¬FlushPointsFlush asyncSetup [plainCall .fatal "no configuration"] := by
  refine ⟨by decide +kernel, by decide +kernel, ?_, ?_⟩
  · exact not_flushed_of_between [plainCall .info "closing"] [plainCall .info "graceful shutdown completed cleanly"] []
      (Option.some_ne_none 4096) rfl
      (List.forall_mem_cons.mpr ⟨rfl, List.forall_mem_cons.mpr ⟨rfl, List.forall_mem_cons.mpr ⟨rfl,
        List.forall_mem_singleton.mpr rfl⟩⟩⟩) (List.mem_singleton_self _) rfl
  · exact not_flushed_of_exits (Option.some_ne_none 4096) (List.mem_singleton_self _) rfl

end MailBaby.Proofs
