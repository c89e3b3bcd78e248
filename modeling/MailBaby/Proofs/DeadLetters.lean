import MailBaby.Proofs.Pipeline
import MailBaby.Proofs.Routing

/-!
# Destinations of dead letters

`routeToDLQ` addresses a dead letter through the message's topic only. Whether it leaves the
consumed queue depends on the driver reading that topic.
-/

namespace MailBaby

open Lib

/-! ### The letters of a run -/

def Event.letter? : Event → Option Message
  | publish letter _ => some letter
  | _ => none

def World.letters (w : World) : List Message := w.events.filterMap Event.letter?

lemma World.letters_emit (w : World) (ev : Event) : (w.emit ev).letters = w.letters ++ ev.letter?.toList := by
  unfold letters
  rw [emit_events, List.filterMap_append]
  cases h : ev.letter? <;> simp [h]

lemma ackMessage_letters (env : Env) (w : World) : (ackMessage env w).2.letters = w.letters := by
  cases hack : w.msg.acknowledged with
  | true => rw [ackMessage_of_acknowledged hack]
  | false =>
    cases hfn : w.msg.ackFn with
    | none => rw [ackMessage_of_none hack hfn]
    | some fn =>
      rw [ackMessage_of_some hack hfn]
      exact (World.letters_emit w _).trans (List.append_nil _)

namespace Engine

variable {e : Engine} {producer : Queue} {err : GoError} {env : Env} {w : World}

lemma finish_letters : (e.finish err env w).2.letters = w.letters := by
  have hdone : ∀ w₁ : World, w₁.letters = w.letters → e.notifyErrorHandler err env w = (.ok (), w₁) →
      (e.finish err env w).2.letters = w.letters := by
    intro w₁ hletters hnotify
    obtain ⟨r, w₂, hack, -⟩ := ackMessage_view env w₁
    have hdiscard : (discard ackMessage : Proc Unit) env w₁ = (.ok (), w₂) := Eff.bind_of_ok hack _
    unfold finish
    rw [Eff.bind_of_ok hnotify, Eff.bind_of_ok hdiscard, ← hletters, ← ackMessage_letters env w₁, hack]
    rfl
  cases hset : e.errorHandler with
  | false => exact hdone w rfl (by simp [notifyErrorHandler, hset])
  | true =>
    cases hp : env.errorHandler with
    | none =>
      have hemit : (w.emit (.errorHandler err none)).letters = w.letters :=
        (World.letters_emit w _).trans (List.append_nil _)
      exact hdone _ hemit (by simp [notifyErrorHandler, hset, hp])
    | some v =>
      have hnotify : e.notifyErrorHandler err env w = (.error v, w.emit (.errorHandler err (some v))) := by
        simp [notifyErrorHandler, hset, hp]
      unfold finish
      rw [Eff.bind_of_error hnotify]
      exact (World.letters_emit w _).trans (List.append_nil _)

lemma routeToDLQ_letters (hp : e.dlqProducer = some producer) :
    (e.routeToDLQ err env w).2.letters = w.letters ++ [e.deadLetter w.msg err] := by
  have hletters : ∀ r, ((e.routed w).emit (.publish (e.deadLetter w.msg err) r)).letters =
      w.letters ++ [e.deadLetter w.msg err] := fun r => World.letters_emit (e.routed w) _
  rcases hres : env.publish with ⟨_ | dlqErr⟩ | v
  · rw [routeToDLQ_of_published hp err hres]
    exact finish_letters.trans (hletters _)
  · rw [routeToDLQ_of_refused hp err hres]
    exact hletters _
  · rw [routeToDLQ_of_panics hp err hres]
    exact hletters _

end Engine

/-! ### The drivers that read the topic of a message -/

namespace Queue

def readsTopic (q : Queue) : Bool :=
  match q.driver with
  | .redis | .nats | .rocketmq => true
  | _ => false

/-- The calls that SQS and Pulsar address as documented: SQS never reads the topic of the message,
and a Pulsar producer has one topic. -/
def FollowsTopic (q : Queue) (po : PublishOptions) (m : Message) : Prop :=
  match q.driver with
  | .sqs => po.topic ≠ "" ∨ m.topic = "" ∨ m.topic = q.name
  | .pulsar => (po.topic ≠ "" ∧ po.topic = q.name) ∨
      (po.topic = "" ∧ (m.topic = "" ∨ m.topic = q.name))
  | _ => True

variable {c : QueueConfig} {d : QueueDriver} {m : Message}

lemma publishAddress_of_readsTopic (hd : d ∈ [.redis, .nats, .rocketmq]) (opts : List PublishOption) :
    publishAddress ⟨d, c⟩ m opts = publishTopic (name ⟨d, c⟩) (publishOptions opts) m := by
  cases d with
  | redis | nats | rocketmq => rfl
  | rabbitmq | kafka | pulsar | sqs | memory => simp at hd

lemma precedence_eq_iff {configured : String} {po : PublishOptions} :
    precedence configured po m = configured ↔ (po.topic ≠ "" ∧ po.topic = configured) ∨
      (po.topic = "" ∧ (m.topic = "" ∨ m.topic = configured)) := by
  rw [← publishTopic_eq_precedence]
  unfold publishTopic
  by_cases hpo : po.topic = ""
  · by_cases hm : m.topic = ""
    · simp [hpo, hm]
    · simp [hpo, hm]
  · simp [hpo]

lemma publishAddress_eq_precedence_iff (hd : d ∈ [.redis, .nats, .rocketmq, .pulsar, .sqs])
    (opts : List PublishOption) :
    publishAddress ⟨d, c⟩ m opts = precedence (name ⟨d, c⟩) (publishOptions opts) m ↔
      FollowsTopic ⟨d, c⟩ (publishOptions opts) m := by
  cases d with
  | redis | nats | rocketmq =>
    rw [publishAddress_of_readsTopic (by simp)]
    exact iff_of_true (publishTopic_eq_precedence _ _ _) trivial
  | pulsar => exact eq_comm.trans precedence_eq_iff
  | sqs =>
    have haddress : publishAddress ⟨.sqs, c⟩ m opts = if (publishOptions opts).topic ≠ "" then
        (publishOptions opts).topic else name ⟨.sqs, c⟩ := rfl
    have hfollows : FollowsTopic ⟨.sqs, c⟩ (publishOptions opts) m ↔
        (publishOptions opts).topic ≠ "" ∨ m.topic = "" ∨ m.topic = name ⟨.sqs, c⟩ := Iff.rfl
    rw [haddress, hfollows]
    by_cases hpo : (publishOptions opts).topic = ""
    · rw [if_neg (not_not.mpr hpo), eq_comm, precedence_eq_iff]
      simp [hpo]
    · rw [if_pos hpo, ← publishTopic_eq_precedence, publishTopic, if_pos hpo]
      simp [hpo]
  | rabbitmq | kafka | memory => simp at hd

lemma publishAddress_ne_consumeAddress_iff (hd : d ∈ [.redis, .nats, .rocketmq, .pulsar, .sqs])
    {co : ConsumeOptions} (hco : co.topic = "") :
    publishAddress ⟨d, c⟩ m [] ≠ consumeAddress ⟨d, c⟩ co ↔
      readsTopic ⟨d, c⟩ = true ∧ m.topic ≠ "" ∧ m.topic ≠ consumeAddress ⟨d, c⟩ co := by
  have hread : consumeAddress ⟨d, c⟩ co = name ⟨d, c⟩ := by
    cases d with
    | pulsar | memory => rfl
    | rabbitmq | kafka | redis | rocketmq | nats | sqs => exact consumeTopic_of_empty hco
  rw [hread]
  cases d with
  | redis | nats | rocketmq =>
    rw [publishAddress_of_readsTopic (by simp), ← not_or, ← publishTopic_eq_iff]
    simp [readsTopic, publishOptions]
  | pulsar | sqs =>
    refine iff_of_false (fun h => h rfl) ?_
    simp [readsTopic]
  | rabbitmq | kafka | memory => simp at hd

end Queue

namespace Proofs

/-- `Publish` addresses a record as documented, and a dead letter leaves the consumed queue, under
the conditions on the right: the driver reads the topic of a message, and the dead-letter topic
is not empty. -/
theorem dead_letters_leave_iff (e : Engine)
    (hd : e.queue.driver ∈ [.redis, .nats, .rocketmq, .pulsar, .sqs]) :
    (∀ m opts, e.queue.publishAddress m opts = precedence e.queue.name (publishOptions opts) m ↔
      e.queue.FollowsTopic (publishOptions opts) m) ∧
    (∀ dlqTopic, dlqTopic ≠ e.queue.consumeAddress e.consumeOptions → ∀ m err env,
      let dlq := EngineOption.apply e (.withDLQ e.queue dlqTopic)
      (∀ letter ∈ (dlq.routeToDLQ err env (({} : World).setMsg m)).2.letters,
        e.queue.publishAddress letter [] ≠ e.queue.consumeAddress e.consumeOptions) ↔
      e.queue.readsTopic = true ∧ dlqTopic ≠ "") := by
  refine ⟨fun m opts => Queue.publishAddress_eq_precedence_iff hd opts, ?_⟩
  intro dlqTopic htopic m err env dlq
  have hletters : (dlq.routeToDLQ err env (({} : World).setMsg m)).2.letters =
      [dlq.deadLetter m err] := Engine.routeToDLQ_letters rfl
  rw [hletters]
  have hleave : ∀ letter : Message, letter.topic = dlqTopic →
      (e.queue.publishAddress letter [] ≠ e.queue.consumeAddress e.consumeOptions ↔
        e.queue.readsTopic = true ∧ dlqTopic ≠ "") := by
    intro letter hl
    rw [Queue.publishAddress_ne_consumeAddress_iff hd rfl, hl]
    exact and_congr_right fun _ => and_iff_left htopic
  constructor
  · intro hall
    exact (hleave _ rfl).mp (hall _ (List.mem_singleton_self _))
  · intro hcond letter hmem
    obtain rfl := List.mem_singleton.mp hmem
    exact (hleave _ rfl).mpr hcond

def sqsEngine : Engine :=
  .new ⟨.sqs, { sqs := { queueURL := "https://sqs/mail", region := "eu" } }⟩ none []

def pulsarEngine : Engine :=
  .new ⟨.pulsar, { pulsar := { url := "pulsar://a", topic := "mail", subscriptionName := "s" } }⟩ none []

theorem dead_letters_leave_iff_sqs :
    (∀ m opts, sqsEngine.queue.publishAddress m opts =
        precedence sqsEngine.queue.name (publishOptions opts) m ↔
      sqsEngine.queue.FollowsTopic (publishOptions opts) m) ∧
    "https://sqs/dlq" ≠ sqsEngine.queue.consumeAddress sqsEngine.consumeOptions ∧
    ((∀ letter ∈ ((EngineOption.apply sqsEngine (.withDLQ sqsEngine.queue "https://sqs/dlq")).routeToDLQ
        ⟨"smtp: refused"⟩ { send := fun _ => .returns none } (({} : World).setMsg {})).2.letters,
        sqsEngine.queue.publishAddress letter [] ≠
          sqsEngine.queue.consumeAddress sqsEngine.consumeOptions) ↔
      sqsEngine.queue.readsTopic = true ∧ "https://sqs/dlq" ≠ "") :=
  ⟨(dead_letters_leave_iff sqsEngine (by decide)).1, by decide,
    (dead_letters_leave_iff sqsEngine (by decide)).2 "https://sqs/dlq" (by decide) {} _ _⟩

theorem dead_letters_return_to_source :
    (sqsEngine.queue.consumeAddress sqsEngine.consumeOptions = "https://sqs/mail" ∧
      sqsEngine.queue.publishAddress ((EngineOption.apply sqsEngine
        (.withDLQ sqsEngine.queue "https://sqs/dlq")).deadLetter {} ⟨"smtp: refused"⟩) [] =
          "https://sqs/mail") ∧
    (pulsarEngine.queue.consumeAddress pulsarEngine.consumeOptions = "mail" ∧
      pulsarEngine.queue.publishAddress ((EngineOption.apply pulsarEngine
        (.withDLQ pulsarEngine.queue "mail-dlq")).deadLetter {} ⟨"smtp: refused"⟩) [] = "mail") :=
  ⟨⟨rfl, rfl⟩, ⟨rfl, rfl⟩⟩

end Proofs

end MailBaby
