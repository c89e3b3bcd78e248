import Mathlib.Tactic.Common

/-!
# Go channels

A buffered channel, and the statements on it that may block or panic. A deferred function that recovers
puts a value in the place of the panic.
-/

namespace MailBaby.Lib

inductive Go (α : Type)
  | blocks
  | panics
  | yields (a : α)

namespace Go

variable {α β : Type}

def map (f : α → β) : Go α → Go β
  | blocks => blocks
  | panics => panics
  | yields a => yields (f a)

def recover (a : α) : Go α → Go α
  | blocks => blocks
  | panics => yields a
  | yields b => yields b

end Go

structure Chan (α : Type) where
  capacity : Nat
  buffer : List α := []
  closed : Bool := false

namespace Chan

variable {α : Type}

def send (ch : Chan α) (a : α) : Go (Chan α) :=
  if ch.closed then .panics
  else if ch.buffer.length < ch.capacity then .yields { ch with buffer := ch.buffer ++ [a] }
  else .blocks

/-- A closed channel still yields what is buffered, and then `none` forever. -/
def receive (ch : Chan α) : Go (Option α × Chan α) :=
  match ch.buffer with
  | a :: rest => .yields (some a, { ch with buffer := rest })
  | [] => if ch.closed then .yields (none, ch) else .blocks

def close (ch : Chan α) : Go (Chan α) :=
  if ch.closed then .panics else .yields { ch with closed := true }

variable {ch : Chan α} {a : α}

lemma send_of_closed (hclosed : ch.closed = true) : ch.send a = .panics := if_pos hclosed

lemma send_of_room (hopen : ch.closed = false) (hroom : ch.buffer.length < ch.capacity) :
    ch.send a = .yields { ch with buffer := ch.buffer ++ [a] } := by
  unfold send
  rw [if_neg (Bool.eq_false_iff.mp hopen), if_pos hroom]

lemma send_of_full (hopen : ch.closed = false) (hfull : ch.capacity ≤ ch.buffer.length) :
    ch.send a = .blocks := by
  unfold send
  rw [if_neg (Bool.eq_false_iff.mp hopen), if_neg (Nat.not_lt.mpr hfull)]

lemma receive_cases :
    (∃ a rest, ch.buffer = a :: rest ∧ ch.receive = .yields (some a, { ch with buffer := rest })) ∨
      ch.buffer = [] ∧ ch.closed = true ∧ ch.receive = .yields (none, ch) ∨
      ch.buffer = [] ∧ ch.closed = false ∧ ch.receive = .blocks := by
  unfold receive
  cases hbuffer : ch.buffer with
  | cons a rest => exact .inl ⟨a, rest, rfl, rfl⟩
  | nil =>
    cases hclosed : ch.closed with
    | true => exact .inr (.inl ⟨rfl, rfl, rfl⟩)
    | false => exact .inr (.inr ⟨rfl, rfl, rfl⟩)

end Chan

end MailBaby.Lib
