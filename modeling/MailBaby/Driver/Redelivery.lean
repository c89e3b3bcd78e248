import MailBaby.Driver.Kafka
import MailBaby.Driver.Redis
import MailBaby.Lib.Transition

/-!
# Consume loops and their brokers

The Kafka reader over one partition and the Redis stream workers over one consumer group, as
transition systems. Handlers are arbitrary sequences of `Ack` and `Nack` calls; a worker may
crash between any two calls, and a crashed consumer starts again with the same configuration.
-/

namespace MailBaby

open Lib

inductive SettleCall
  | ack
  | nack (requeue : Bool)
  deriving DecidableEq, Repr

def SettleCall.run : SettleCall → Proc (Option GoError)
  | ack => ackMessage
  | nack requeue => nackMessage requeue

structure Handling where
  calls : List SettleCall := []
  result : Option GoError := none
  env : Env := { send := fun _ => .returns none }

namespace Handling

def handler (h : Handling) : Handler :=
  h.calls.foldr (fun call rest => do discard call.run; rest) (pure h.result)

def events (h : Handling) (process : Handler → Proc Unit) : List Event :=
  (process h.handler h.env {}).2.events

end Handling

/-- The messages with a successful ack call and those rejected with `requeue = false`. -/
structure Ledger where
  acked : List Nat := []
  rejected : List Nat := []

namespace Ledger

def settled (l : Ledger) (i : Nat) : Prop := i ∈ l.acked ∨ i ∈ l.rejected

instance (l : Ledger) (i : Nat) : Decidable (l.settled i) :=
  inferInstanceAs (Decidable (i ∈ l.acked ∨ i ∈ l.rejected))

def note (l : Ledger) (i : Nat) (evs : List Event) : Ledger :=
  { acked := if evs.any Event.settled then i :: l.acked else l.acked
    rejected := if evs.any Event.rejected then i :: l.rejected else l.rejected }

def settles (evs : List Event) : Prop :=
  evs.any Event.settled = true ∨ evs.any Event.rejected = true

lemma settled_note {l : Ledger} {i j : Nat} {evs : List Event} :
    (l.note i evs).settled j ↔ l.settled j ∨ (j = i ∧ settles evs) := by
  unfold settled note settles
  dsimp only
  cases evs.any Event.settled <;> cases evs.any Event.rejected <;> simp <;> tauto

end Ledger

/-! ### A Kafka partition -/

/-- A partition with its reader; `current` is the offset being handled. -/
structure Partition where
  log : List Kafka.Record := []
  committed : Nat := 0
  position : Nat := 0
  current : Option Nat := none
  ledger : Ledger := {}

inductive PartitionAction
  | produce (r : Kafka.Record)
  | fetch
  | finish (h : Handling)
  | crash (h : Handling) (point : Nat)

namespace Partition

variable (cfg : KafkaConfig) (co : ConsumeOptions)

def record (p : Partition) (offset : Nat) : Kafka.Record :=
  { p.log.getD offset {} with offset := offset }

/-- The calls that take effect when the message at `offset` is handled: all of them, or those
before the crash. -/
def effects (p : Partition) (offset : Nat) : PartitionAction → List Event
  | .finish h => h.events fun handler => Kafka.processMessage cfg co handler (p.record offset)
  | .crash h point =>
    (h.events fun handler => Kafka.processMessage cfg co handler (p.record offset)).take point
  | _ => []

/-- A successful ack commits the offset just past the message. -/
def settle (p : Partition) (offset : Nat) (evs : List Event) : Partition :=
  { p with
    committed := if evs.any Event.settled then offset + 1 else p.committed
    ledger := p.ledger.note offset evs
    current := none }

def restart (p : Partition) : Partition := { p with position := p.committed, current := none }

def step (p : Partition) (a : PartitionAction) : Option Partition :=
  match a, p.current with
  | .produce r, _ => some { p with log := p.log ++ [r] }
  | .fetch, none =>
    if p.position < p.log.length then
      some { p with current := some p.position, position := p.position + 1 }
    else none
  | .fetch, some _ => none
  | .finish _, none => none
  | .finish _, some offset => some (p.settle offset (p.effects cfg co offset a))
  | .crash .., none => some p.restart
  | .crash .., some offset => some (p.settle offset (p.effects cfg co offset a)).restart

/-- Some later fetch of the consume loop returns the message at `offset`. -/
def Fetchable (p : Partition) (offset : Nat) : Prop :=
  ∃ q r, Reaches (step cfg co) p q ∧ step cfg co q .fetch = some r ∧ r.current = some offset

def Deliverable (p : Partition) : Prop :=
  ∀ offset < p.log.length, ¬p.ledger.settled offset → p.Fetchable cfg co offset

/-- A message is committed only when all earlier ones are acknowledged or rejected. -/
def InOrder (p : Partition) (a : PartitionAction) : Prop :=
  ∀ offset, p.current = some offset → (p.effects cfg co offset a).any Event.settled = true →
    ∀ earlier < offset, p.ledger.settled earlier

end Partition

/-! ### A Redis stream -/

/-- A stream with the workers of its consumer group. The first `delivered` entries have been
handed to the group; `workers` lists what each worker has read and not finished. -/
structure Stream where
  entries : List Redis.XMessage := []
  delivered : Nat := 0
  workers : Nat → List Nat := fun _ => []
  ledger : Ledger := {}

inductive StreamAction
  | add (x : Redis.XMessage)
  | read (worker : Nat)
  | finish (worker : Nat) (h : Handling)
  | crash (worker : Nat) (h : Handling) (point : Nat)

def Redis.prefetch (co : ConsumeOptions) : Nat :=
  if co.batchSize > 0 then co.batchSize.toNat
  else if co.prefetchCount > 0 then co.prefetchCount.toNat
  else 10

structure StreamReader where
  codec : Redis.EnvelopeCodec
  now : Time
  cfg : RedisConfig
  co : ConsumeOptions

def StreamReader.process (r : StreamReader) (x : Redis.XMessage) (handler : Handler) : Proc Unit :=
  Redis.processStreamMessage r.codec r.now (Redis.consumeKey r.cfg r.co) (Redis.consumeGroup r.cfg)
    r.co handler x

namespace Stream

variable (reader : StreamReader)

def entry (s : Stream) (i : Nat) : Redis.XMessage := s.entries.getD i ⟨"", ∅⟩

def effects (s : Stream) (i : Nat) : StreamAction → List Event
  | .finish _ h => h.events (reader.process (s.entry i))
  | .crash _ h point => (h.events (reader.process (s.entry i))).take point
  | _ => []

def setWorker (s : Stream) (worker : Nat) (batch : List Nat) : Stream :=
  { s with workers := fun w => if w = worker then batch else s.workers w }

/-- A worker is done with the entry at hand, after the calls `evs`, and goes on with `keep`. An
acknowledged entry leaves the pending list, which the consume loop never reads. -/
def conclude (s : Stream) (worker i : Nat) (evs : List Event) (keep : List Nat) : Stream :=
  { s.setWorker worker keep with ledger := s.ledger.note i evs }

/-- The entries that the next `XREADGROUP` with `>` returns: never delivered ones only. -/
def unread (s : Stream) : List Nat :=
  List.range' s.delivered (min (Redis.prefetch reader.co) (s.entries.length - s.delivered))

def step (s : Stream) (a : StreamAction) : Option Stream :=
  match a with
  | .add x => some { s with entries := s.entries ++ [x] }
  | .read worker =>
    if s.workers worker = [] then
      some { s.setWorker worker (s.unread reader) with
        delivered := s.delivered + (s.unread reader).length }
    else none
  | .finish worker _ =>
    match s.workers worker with
    | [] => none
    | i :: rest => some (s.conclude worker i (s.effects reader i a) rest)
  | .crash worker .. =>
    match s.workers worker with
    | [] => some s
    | i :: _ => some (s.conclude worker i (s.effects reader i a) [])

def Fetchable (s : Stream) (i : Nat) : Prop :=
  ∃ t t' worker, Reaches (step reader) s t ∧ step reader t (.read worker) = some t' ∧
    i ∈ t'.workers worker

def Deliverable (s : Stream) : Prop :=
  ∀ i < s.entries.length, ¬s.ledger.settled i → s.Fetchable reader i

def Idle (s : Stream) : Prop := ∀ worker, s.workers worker = []

/-- Finishing an entry acknowledges or rejects it; a worker that crashes has settled the entry at
hand and holds no other. -/
def Settles (s : Stream) (a : StreamAction) : Prop :=
  match a with
  | .finish worker _ => ∀ i rest, s.workers worker = i :: rest →
      Ledger.settles (s.effects reader i a)
  | .crash worker .. => ∀ i rest, s.workers worker = i :: rest →
      Ledger.settles (s.effects reader i a) ∧ rest = []
  | _ => True

end Stream

end MailBaby
