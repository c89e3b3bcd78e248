import MailBaby.Driver.Memory
import MailBaby.Lib.Transition

/-!
# Requeueing in the memory queue

A message is followed over its deliveries, each of which ends with `Nack(ctx, true)`. The state
is what lies on the channel for it: nothing once a requeue was lost.
-/

namespace MailBaby

open Lib

namespace Memory

inductive Path
  | consume (co : ConsumeOptions)
  | receive

def Path.deliver (handler : Handler) : Path → Proc Unit
  | consume co => consumeOne co handler
  | receive => discard (receiveOne (discard handler))

def Path.autoAck : Path → Bool
  | consume co => co.autoAck
  | receive => false

def Path.install (m : Message) : Path → Message
  | consume _ => consumed m
  | receive => received m

def Path.countAttempt : Path → Bool
  | consume _ => true
  | receive => false

/-- Calls `Nack(ctx, true)` and returns `result`; does not return unless `Nack` returned nil. -/
def requeueing (result : Option GoError) : Handler := do
  match ← nackMessage true with
  | none => pure result
  | some err => Eff.panic err.text

lemma nackMessage_of_acknowledged {env : Env} {w : World} (requeue : Bool)
    (h : w.msg.acknowledged = true) : nackMessage requeue env w = (.ok none, w) := by
  have hnack : w.msg.nack runNack requeue env w = (.ok (none, w.msg), w) := by
    unfold Message.nack
    rw [if_pos h]
    rfl
  unfold nackMessage
  rw [Eff.bind_of_ok (Eff.query_apply env w _), Eff.bind_of_ok hnack]
  rfl

lemma nackMessage_requeues {env : Env} {w : World} {countAttempt : Bool}
    (h : w.msg.acknowledged = false) (hfn : w.msg.nackFn = some (.requeueClone countAttempt))
    (hopen : w.channelClosed = false) :
    nackMessage true env w = (.ok none, ((w.push { w.msg with
        acknowledged := true
        attempts := w.msg.attempts + if countAttempt then 1 else 0 }).emit
      (.nack (.requeueClone countAttempt) true (env.done w.clock) none)).setMsg
        { w.msg with acknowledged := true }) := by
  obtain ⟨⟨_, _, _, _, _, _, _, attempts, acknowledged, _, nackFn⟩, _, channelClosed, _, _, _⟩ := w
  obtain rfl : acknowledged = false := h
  obtain rfl : nackFn = some (.requeueClone countAttempt) := hfn
  obtain rfl : channelClosed = false := hopen
  cases countAttempt with
  | true => rfl
  | false =>
    simp only [Bool.false_eq_true, if_false, Int.add_zero]
    rfl

/-- One delivery from an open queue. The followed message is the next one on the channel, in front
of those of `queue`. -/
structure Round where
  path : Path
  env : Env
  queue : World
  result : Option GoError

namespace Round

def start (r : Round) (m : Message) : World :=
  { r.queue with channel := m :: r.queue.channel, channelClosed := false }

def handed (r : Round) (m : Message) : World :=
  (r.path.deliver (Eff.panic "") r.env (r.start m)).2

def seen (r : Round) (m : Message) : Message := (r.handed m).msg

def requeue (r : Round) (m : Message) : Option (Option Message) :=
  match r.path.deliver (requeueing r.result) r.env (r.start m) with
  | (.ok _, w) => some (w.channel.drop r.queue.channel.length).head?
  | (.error _, _) => none

lemma seen_eq (r : Round) (m : Message) :
    r.seen m = { r.path.install m with acknowledged := m.acknowledged || r.path.autoAck } := by
  obtain ⟨path, env, queue, result⟩ := r
  obtain ⟨_, _, _, _, _, _, _, _, acknowledged, _, _⟩ := m
  cases path with
  | receive => cases acknowledged <;> rfl
  | consume co =>
    obtain ⟨_, _, autoAck, _, _⟩ := co
    cases acknowledged <;> cases autoAck <;> rfl

lemma handed_channel (r : Round) (m : Message) :
    (r.handed m).channel = r.queue.channel ∧ (r.handed m).channelClosed = false := by
  obtain ⟨path, env, queue, result⟩ := r
  obtain ⟨_, _, _, _, _, _, _, _, acknowledged, _, _⟩ := m
  cases path with
  | receive => exact ⟨rfl, rfl⟩
  | consume co =>
    obtain ⟨_, _, autoAck, _, _⟩ := co
    cases acknowledged <;> cases autoAck <;> exact ⟨rfl, rfl⟩

lemma deliver_of_settled {r : Round} {m : Message} {handler : Handler} {err : Option GoError} {w : World}
    (h : handler r.env (r.handed m) = (.ok err, w)) (hw : w.msg.acknowledged = true) :
    r.path.deliver handler r.env (r.start m) = (.ok (), w) := by
  obtain ⟨path, env, queue, result⟩ := r
  cases path with
  | receive =>
    have hcont : Path.deliver handler .receive env (start ⟨.receive, env, queue, result⟩ m) =
        (discard (discard handler >>= fun _ => pure (none : Option GoError)) : Proc Unit) env
          (handed ⟨.receive, env, queue, result⟩ m) := rfl
    have hcaller : (discard handler : Proc Unit) env (handed ⟨.receive, env, queue, result⟩ m) =
        (.ok (), w) := Eff.bind_of_ok h _
    rw [hcont]
    exact Eff.bind_of_ok (Eff.bind_of_ok hcaller _) _
  | consume co =>
    have hcont : Path.deliver handler (.consume co) env (start ⟨.consume co, env, queue, result⟩ m) =
        (handler >>= fun err => do
          let m' ← Eff.query fun _ w => w.msg
          if err.isSome && !m'.isAcknowledged then discard ackMessage
          else if err.isNone && !m'.isAcknowledged then discard ackMessage
          else pure ()) env (handed ⟨.consume co, env, queue, result⟩ m) := by
      obtain ⟨_, _, _, _, _, _, _, _, acknowledged, _, _⟩ := m
      obtain ⟨_, _, autoAck, _, _⟩ := co
      cases acknowledged <;> cases autoAck <;> rfl
    rw [hcont, Eff.bind_of_ok h, Eff.bind_of_ok (Eff.query_apply env w _)]
    simp [Message.isAcknowledged, hw]

lemma requeue_of_acknowledged {r : Round} {m : Message} (h : (r.seen m).acknowledged = true) :
    r.requeue m = some none := by
  have hnack : requeueing r.result r.env (r.handed m) = (.ok r.result, r.handed m) :=
    Eff.bind_of_ok (nackMessage_of_acknowledged true h) _
  unfold requeue
  rw [deliver_of_settled hnack h]
  simp [(r.handed_channel m).1]

lemma seen_attempts (r : Round) (m : Message) : (r.seen m).attempts = m.attempts := by
  rw [seen_eq]
  cases r.path <;> rfl

lemma seen_nackFn (r : Round) (m : Message) :
    (r.seen m).nackFn = some (.requeueClone r.path.countAttempt) := by
  rw [seen_eq]
  cases r.path <;> rfl

lemma requeue_of_open {r : Round} {m : Message} (h : (r.seen m).acknowledged = false) :
    r.requeue m = some (some { r.seen m with
      acknowledged := true
      attempts := m.attempts + if r.path.countAttempt then 1 else 0 }) := by
  obtain ⟨hchannel, hopen⟩ := r.handed_channel m
  have hrun : requeueing r.result r.env (r.handed m) = (.ok r.result, _) :=
    Eff.bind_of_ok (nackMessage_requeues h (r.seen_nackFn m) hopen) _
  have hattempts : (r.handed m).msg.attempts = m.attempts := r.seen_attempts m
  unfold requeue
  rw [deliver_of_settled hrun rfl]
  simp only [World.setMsg, World.emit, World.push, hchannel, List.drop_left, List.head?_cons, hattempts]
  rfl

end Round

/-- The next delivery of the followed message; there is none once it is off the channel. -/
def redeliver : Option Message → Round → Option (Option Message)
  | some m, r => r.requeue m
  | none, _ => none

lemma redeliver_acknowledged {waiting waiting' : Option Message} {r : Round}
    (h : redeliver waiting r = some waiting') : ∀ m ∈ waiting', m.acknowledged = true := by
  cases waiting with
  | none => cases h
  | some m =>
    cases hack : (r.seen m).acknowledged with
    | true =>
      cases (Round.requeue_of_acknowledged hack).symm.trans h
      intro m' hm'
      cases hm'
    | false =>
      cases (Round.requeue_of_open hack).symm.trans h
      intro m' hm'
      cases hm'
      rfl

lemma run_acknowledged {m : Message} {waiting : Option Message} {rounds : List Round}
    (hne : rounds ≠ []) (h : run redeliver (some m) rounds = some waiting) :
    ∀ m' ∈ waiting, m'.acknowledged = true := by
  obtain ⟨r, rest, rfl⟩ := List.exists_cons_of_ne_nil hne
  obtain ⟨waiting₁, hfirst, hrest⟩ := run_cons h
  exact run_invariant (I := fun waiting => ∀ m' ∈ waiting, m'.acknowledged = true)
    (fun _ _ _ _ ht => redeliver_acknowledged ht) (redeliver_acknowledged hfirst) hrest

end Memory

namespace Proofs

open Memory

/-- After `rounds` the message is delivered once more, open and with one attempt more for each
round, exactly if there were no rounds at all. -/
theorem requeue_intact_iff (name : String) (trace : Headers) (m : Message) (opts : List PublishOption)
    (rounds : List Round) (last : Round) (waiting : Option Message)
    (hrun : run redeliver (some (prepare name trace m opts).clone) rounds = some waiting) :
    (∃ m', waiting = some m' ∧ (last.seen m').isAcknowledged = false ∧
      (last.seen m').attempts =
        ((rounds.headD last).seen (prepare name trace m opts).clone).attempts + rounds.length) ↔
    rounds = [] ∧ m.acknowledged = false ∧ last.path.autoAck = false := by
  have hopen : ∀ m', (last.seen m').isAcknowledged = (m'.acknowledged || last.path.autoAck) := by
    intro m'
    rw [Round.seen_eq]
    rfl
  cases rounds with
  | nil =>
    cases hrun
    simp [hopen, prepare, Bool.or_eq_false_iff]
  | cons r rest =>
    have hflag := run_acknowledged (List.cons_ne_nil r rest) hrun
    constructor
    · rintro ⟨m', rfl, hfalse, -⟩
      rw [hopen, hflag m' rfl] at hfalse
      cases hfalse
    · rintro ⟨hnil, -⟩
      cases hnil

def consumeRound : Round := ⟨.consume {}, { send := fun _ => .returns none }, {}, none⟩

theorem requeue_intact_iff_fresh :
    run redeliver (some (prepare "mail" ∅ {} []).clone) [] = some (some (prepare "mail" ∅ {} []).clone) ∧
    ((∃ m', some (prepare "mail" ∅ {} []).clone = some m' ∧
      (consumeRound.seen m').isAcknowledged = false ∧
      (consumeRound.seen m').attempts =
        ((([] : List Round).headD consumeRound).seen (prepare "mail" ∅ {} []).clone).attempts +
          (0 : Nat)) ↔
      ([] : List Round) = [] ∧ ({} : Message).acknowledged = false ∧
        consumeRound.path.autoAck = false) :=
  ⟨rfl, requeue_intact_iff "mail" ∅ {} [] [] consumeRound _ rfl⟩

/-- A message requeued once is delivered again as acknowledged, and its second `Nack(ctx, true)`
loses it; `Receive` moreover does not count the attempt. -/
theorem second_requeue_loses_message :
    (∃ m', run redeliver (some (prepare "mail" ∅ { attempts := 1 } []).clone) [consumeRound] =
        some (some m') ∧ (consumeRound.seen m').isAcknowledged = true) ∧
    run redeliver (some (prepare "mail" ∅ { attempts := 1 } []).clone) [consumeRound, consumeRound] =
      some none ∧
    (∃ m', run redeliver (some (prepare "mail" ∅ { attempts := 1 } []).clone)
        [{ consumeRound with path := .receive }] = some (some m') ∧ m'.attempts = 1) :=
  ⟨⟨_, rfl, rfl⟩, rfl, ⟨_, rfl, rfl⟩⟩

end Proofs

end MailBaby
