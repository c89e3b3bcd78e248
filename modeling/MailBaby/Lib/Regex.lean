import Mathlib.Tactic.Common

/-!
# Regular expressions

Package `regexp` on the expressions that are needed here: only a class of characters is repeated.
-/

namespace MailBaby.Lib

inductive Regex
  | one (cls : Char → Bool)
  | many (cls : Char → Bool) (least : Nat) (most : Option Nat)
  | seq (r s : Regex)
  | alt (r s : Regex)
  | opt (r : Regex)
  | group (n : Nat) (r : Regex)
  | wordBoundary

namespace Regex

/-- A place in the text with the character before it, and the groups matched so far. -/
structure Cursor where
  prev : Option Char
  rest : List Char
  groups : List (Nat × List Char) := []

def isWordChar : Option Char → Bool
  | none => false
  | some c => ('0' ≤ c && c ≤ '9') || ('A' ≤ c && c ≤ 'Z') || ('a' ≤ c && c ≤ 'z') || c = '_'

variable {α : Type}

/-- A repetition that has matched `n` characters takes one more if it can. -/
def execMany (cls : Char → Bool) (least : Nat) (most : Option Nat) (groups : List (Nat × List Char))
    (next : Cursor → Option α) : Nat → Option Char → List Char → Option α
  | n, prev, [] => if least ≤ n then next ⟨prev, [], groups⟩ else none
  | n, prev, c :: rest =>
    (if cls c ∧ most.all (n < ·) then execMany cls least most groups next (n + 1) (some c) rest else none) <|>
      if least ≤ n then next ⟨prev, c :: rest, groups⟩ else none

def exec : Regex → Cursor → (Cursor → Option α) → Option α
  | one cls, cur, next =>
    match cur.rest with
    | [] => none
    | c :: rest => if cls c then next { cur with prev := some c, rest := rest } else none
  | many cls least most, cur, next => execMany cls least most cur.groups next 0 cur.prev cur.rest
  | seq r s, cur, next => exec r cur fun cur => exec s cur next
  | alt r s, cur, next => exec r cur next <|> exec s cur next
  | opt r, cur, next => exec r cur next <|> next cur
  | group n r, cur, next => exec r cur fun cur' =>
      let text := cur.rest.take (cur.rest.length - cur'.rest.length)
      next { cur' with groups := (n, text) :: cur'.groups }
  | wordBoundary, cur, next => if isWordChar cur.prev ≠ isWordChar cur.rest.head? then next cur else none

/-! ### Replacing matches -/

inductive Piece
  | text (t : List Char)
  | group (n : Nat)

/-- A group that did not take part in the match is empty. -/
def Piece.expand (groups : List (Nat × List Char)) : Piece → List Char
  | text t => t
  | group n => (groups.lookup n).getD []

/-- At most `fuel` characters are passed. Matches of the empty text are left alone. -/
def replaceFrom (r : Regex) (template : List Piece) : (fuel : Nat) → Option Char → List Char → List Char
  | 0, _, rest => rest
  | _ + 1, _, [] => []
  | fuel + 1, prev, c :: rest =>
    match r.exec ⟨prev, c :: rest, []⟩ some with
    | some cur =>
      if cur.rest.length ≤ rest.length then
        template.flatMap (·.expand cur.groups) ++ replaceFrom r template fuel cur.prev cur.rest
      else c :: replaceFrom r template fuel (some c) rest
    | none => c :: replaceFrom r template fuel (some c) rest

def replaceAll (r : Regex) (template : List Piece) (text : List Char) : List Char :=
  replaceFrom r template text.length none text

/-! ### Building expressions -/

def all : List Regex → Regex
  | [] => many (fun _ => false) 0 none
  | [r] => r
  | r :: rs => seq r (all rs)

def any : List Regex → Regex
  | [] => one fun _ => false
  | [r] => r
  | r :: rs => alt r (any rs)

/-- The class `\s`. -/
def isBlank (c : Char) : Bool := c = '\t' || c = '\n' || c.toNat = 0xc || c = '\r' || c = ' '

def isLetter (c : Char) : Bool := ('A' ≤ c && c ≤ 'Z') || ('a' ≤ c && c ≤ 'z')

def isBase64 (c : Char) : Bool := isLetter c || ('0' ≤ c && c ≤ '9') || c = '+' || c = '/'

def literal (s : String) : Regex := all (s.toList.map fun c => one (· = c))

end Regex

end MailBaby.Lib
