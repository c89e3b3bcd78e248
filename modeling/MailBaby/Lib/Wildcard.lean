import Mathlib.Data.List.Infix
import Mathlib.Tactic.Common

/-!
# Wildcard patterns over words

Message brokers route by dotted names: a name is a list of words and a pattern is a list
of segments that stand for one given word, for any one word, or for any number of words.
-/

namespace MailBaby.Lib

inductive Segment (α : Type)
  | word (a : α)
  | one
  | any
  deriving DecidableEq, Repr

namespace Segment

variable {α : Type} [DecidableEq α]

/-- Whether a list of words matches a pattern; `any` tries every suffix of the words. -/
def accepts : List (Segment α) → List α → Bool
  | [], ws => ws.isEmpty
  | .word a :: ps, ws =>
    match ws with
    | [] => false
    | w :: rest => decide (a = w) && accepts ps rest
  | .one :: ps, ws =>
    match ws with
    | [] => false
    | _ :: rest => accepts ps rest
  | .any :: ps, ws => ws.tails.any (accepts ps)

end Segment

end MailBaby.Lib
