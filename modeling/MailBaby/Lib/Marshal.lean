import MailBaby.Lib.Maps
import MailBaby.Lib.Timestamp
import MailBaby.Lib.Unmarshal

/-!
# Writing JSON

`encoding/json`: strings, numbers and objects are written without blanks, and reading the text gives
them back.
-/

namespace MailBaby.Lib

namespace Json

variable {n : Nat} {c : Char} {text : List Char}

/-! ### Strings -/

def shortEscape : Char → Option Char
  | '"' => some '"'
  | '\\' => some '\\'
  | '\x08' => some 'b'
  | '\x0c' => some 'f'
  | '\n' => some 'n'
  | '\r' => some 'r'
  | '\t' => some 't'
  | _ => none

def hexChar (n : Nat) : Char := if n < 10 then Char.ofNat (48 + n) else Char.ofNat (87 + n)

def hexEscape (n : Nat) : List Char :=
  ['\\', 'u', hexChar (n / 4096), hexChar (n / 256 % 16), hexChar (n / 16 % 16), hexChar (n % 16)]

/-- Besides control characters, the characters that HTML gives a meaning and the line separators of
JavaScript are escaped. -/
def needsHex (c : Char) : Bool :=
  c.toNat < 0x20 || c = '<' || c = '>' || c = '&' || c.toNat = 0x2028 || c.toNat = 0x2029

def escape (c : Char) : List Char :=
  match shortEscape c with
  | some letter => ['\\', letter]
  | none => if needsHex c then hexEscape c.toNat else [c]

/-- The literal that stands for a text, without its quotes. -/
def literal (text : List Char) : List Char := text.flatMap escape

lemma shortEscape_spec {letter : Char} (h : shortEscape c = some letter) :
    simpleEscape letter = some c ∧ letter ≠ 'u' ∧ ¬letter.toNat < 0x20 := by
  unfold shortEscape at h
  split at h <;> cases h <;> decide

lemma escape_cases (c : Char) :
    (∃ letter, shortEscape c = some letter ∧ escape c = ['\\', letter]) ∨
      (c.toNat < 0xD800 ∧ escape c = hexEscape c.toNat) ∨
      (escape c = [c] ∧ ¬c.toNat < 0x20 ∧ c ≠ '"' ∧ c ≠ '\\') := by
  unfold escape
  cases hshort : shortEscape c with
  | some letter => exact .inl ⟨letter, rfl, rfl⟩
  | none =>
    by_cases hhex : needsHex c = true
    · refine .inr (.inl ⟨?_, if_pos hhex⟩)
      simp only [needsHex, Bool.or_eq_true, decide_eq_true_eq] at hhex
      rcases hhex with ((((hc | rfl) | rfl) | rfl) | hc) | hc
      · omega
      · decide
      · decide
      · decide
      · omega
      · omega
    · refine .inr (.inr ⟨if_neg hhex, ?_, ?_, ?_⟩)
      · intro hc
        exact hhex (by simp [needsHex, hc])
      · rintro rfl
        cases hshort
      · rintro rfl
        cases hshort

lemma hexDigit_hexChar (h : n < 16) : hexDigit (hexChar n) = some n := by
  have hall : ∀ k : Fin 16, hexDigit (hexChar k.val) = some k.val := by decide
  exact hall ⟨n, h⟩

lemma hex₄_hexChar (h : n < 65536) :
    hex₄ (hexChar (n / 4096)) (hexChar (n / 256 % 16)) (hexChar (n / 16 % 16)) (hexChar (n % 16)) = some n := by
  unfold hex₄
  rw [hexDigit_hexChar (by omega), hexDigit_hexChar (by omega), hexDigit_hexChar (by omega),
    hexDigit_hexChar (by omega)]
  simp only [Option.bind_eq_bind, Option.bind_some]
  congr 1
  omega

lemma unquote_escape (c : Char) (rest : List Char) :
    unquote (escape c ++ rest) = (unquote rest).map (c :: ·) := by
  rcases escape_cases c with ⟨letter, hshort, hescape⟩ | ⟨hlt, hescape⟩ | ⟨hescape, -, -, hc⟩
  · obtain ⟨hletter, hu, -⟩ := shortEscape_spec hshort
    rw [hescape, List.cons_append, List.singleton_append, unquote.eq_3 _ _ fun _ _ _ _ _ h _ => hu h, hletter]
    cases unquote rest <;> rfl
  · have hhigh : isHighSurrogate c.toNat = false := by
      simp only [isHighSurrogate, Bool.and_eq_false_iff, decide_eq_false_iff_not]
      omega
    have hlow : isLowSurrogate c.toNat = false := by
      simp only [isLowSurrogate, Bool.and_eq_false_iff, decide_eq_false_iff_not]
      omega
    rw [hescape]
    simp only [hexEscape, List.cons_append, List.nil_append]
    rw [unquote.eq_2, hex₄_hexChar (by omega)]
    simp only [Option.bind_eq_bind, Option.bind_some, hhigh, hlow, Bool.false_eq_true, if_false,
      Char.ofNat_toNat]
    cases unquote rest <;> rfl
  · rw [hescape, List.singleton_append, unquote.eq_5 _ _ (fun _ _ _ _ _ h _ => hc h) (fun _ _ h _ => hc h)
      fun h _ => hc h]
    cases unquote rest <;> rfl

theorem unquote_literal (text : List Char) : unquote (literal text) = some text := by
  induction text with
  | nil => rfl
  | cons c text ih =>
    rw [literal, List.flatMap_cons, unquote_escape]
    rw [literal] at ih
    rw [ih]
    rfl

lemma literal_eq_self
    (h : ∀ c ∈ text, shortEscape c = none ∧ needsHex c = false) : literal text = text := by
  induction text with
  | nil => rfl
  | cons c text ih =>
    obtain ⟨hc, htext⟩ := List.forall_mem_cons.mp h
    have hescape : escape c = [c] := by
      unfold escape
      rw [hc.1, hc.2]
      rfl
    rw [literal, List.flatMap_cons, hescape, List.singleton_append]
    exact congrArg (c :: ·) (ih htext)

section Strings

variable {goOn : List Char → Bool → Machine} {close : List Char → Option Machine}

lemma inString_plain (hlow : ¬c.toNat < 0x20) (hquote : c ≠ '"') (hslash : c ≠ '\\')
    (text : List Char) : inString c text false goOn close = some (goOn (c :: text) false) := by
  rw [inString, if_neg hlow, if_neg Bool.false_ne_true, if_neg hquote, decide_eq_false hslash]

lemma inString_slash (text : List Char) :
    inString '\\' text false goOn close = some (goOn ('\\' :: text) true) := rfl

lemma inString_escaped (hlow : ¬c.toNat < 0x20) (text : List Char) :
    inString c text true goOn close = some (goOn (c :: text) false) := by
  rw [inString, if_neg hlow, if_pos rfl]

lemma inString_hexChar (h : n < 16) (text : List Char) :
    inString (hexChar n) text false goOn close = some (goOn (hexChar n :: text) false) := by
  have hall : ∀ k : Fin 16, ¬(hexChar k.val).toNat < 0x20 ∧ hexChar k.val ≠ '"' ∧ hexChar k.val ≠ '\\' := by
    decide
  obtain ⟨hlow, hquote, hslash⟩ := hall ⟨n, h⟩
  exact inString_plain hlow hquote hslash text

variable (hstep : ∀ text escaped c, step (goOn text escaped) c = inString c text escaped goOn close)
include hstep

lemma foldlM_escape (c : Char) (text : List Char) :
    (escape c).foldlM step (goOn text false) = some (goOn ((escape c).reverse ++ text) false) := by
  rcases escape_cases c with ⟨letter, hshort, hescape⟩ | ⟨hlt, hescape⟩ | ⟨hescape, hlow, hquote, hslash⟩
  · obtain ⟨-, -, hletter⟩ := shortEscape_spec hshort
    rw [hescape]
    simp only [List.foldlM_cons, List.foldlM_nil, hstep, inString_slash, inString_escaped hletter,
      Option.bind_eq_bind, Option.bind_some]
    rfl
  · rw [hescape, hexEscape]
    have hu : ¬ 'u'.toNat < 0x20 := by decide
    simp only [List.foldlM_cons, List.foldlM_nil, hstep, inString_slash, inString_escaped hu,
      Option.bind_eq_bind, Option.bind_some]
    rw [inString_hexChar (by omega)]
    simp only [Option.bind_some, hstep]
    rw [inString_hexChar (by omega)]
    simp only [Option.bind_some, hstep]
    rw [inString_hexChar (by omega)]
    simp only [Option.bind_some, hstep]
    rw [inString_hexChar (by omega)]
    rfl
  · rw [hescape]
    simp only [List.foldlM_cons, List.foldlM_nil, hstep, inString_plain hlow hquote hslash,
      Option.bind_eq_bind, Option.bind_some]
    rfl

lemma foldlM_literal (text read : List Char) :
    (literal text).foldlM step (goOn read false) = some (goOn ((literal text).reverse ++ read) false) := by
  induction text generalizing read with
  | nil => rfl
  | cons c text ih =>
    rw [literal, List.flatMap_cons, List.foldlM_append, foldlM_escape hstep, Option.bind_eq_bind,
      Option.bind_some]
    rw [literal] at ih
    rw [ih, List.reverse_append, List.append_assoc]

variable (goOn close) in
lemma foldlM_quoted (text rest : List Char) :
    (literal text ++ '"' :: rest).foldlM step (goOn [] false) = (close (literal text)).bind (rest.foldlM step) := by
  rw [List.foldlM_append, foldlM_literal hstep, Option.bind_eq_bind, Option.bind_some, List.foldlM_cons, hstep,
    List.append_nil]
  rw [inString, if_neg (by decide), if_neg Bool.false_ne_true, if_pos rfl, List.reverse_reverse]
  rfl

end Strings

/-! ### Numbers -/

def natText (n : Nat) : List Char := Nat.toDigits 10 n

def intText (n : Int) : List Char := if n < 0 then '-' :: natText n.natAbs else natText n.natAbs

lemma natText_of_lt (h : n < 10) : natText n = [Char.ofNat (48 + n)] := by
  have hall : ∀ k : Fin 10, Nat.digitChar k.val = Char.ofNat (48 + k.val) := by decide
  rw [natText, Nat.toDigits_of_lt_base h]
  exact congrArg (fun c => [c]) (hall ⟨n, h⟩)

lemma natText_of_ge (h : 10 ≤ n) : natText n = natText (n / 10) ++ [Char.ofNat (48 + n % 10)] := by
  have hlast := natText_of_lt (Nat.mod_lt n (by decide : 0 < 10))
  rw [natText, Nat.toDigits_of_lt_base (Nat.mod_lt n (by decide))] at hlast
  rw [natText, Nat.toDigits_eq_if (by decide), if_neg (Nat.not_lt.mpr h), hlast]
  rfl

lemma digits_natText (n : Nat) : digits (natText n) = n := by
  induction n using Nat.strong_induction_on with
  | _ n ih =>
    by_cases h : n < 10
    · have hall : ∀ k : Fin 10, digits [Char.ofNat (48 + k.val)] = k.val := by decide
      rw [natText_of_lt h]
      exact hall ⟨n, h⟩
    · have hall : ∀ k : Fin 10, (Char.ofNat (48 + k.val)).toNat - 48 = k.val := by decide
      have hlast := hall ⟨n % 10, Nat.mod_lt n (by decide)⟩
      have hinit := ih (n / 10) (by omega)
      unfold digits at hinit ⊢
      rw [natText_of_ge (Nat.le_of_not_lt h), List.foldl_append, hinit, List.foldl_cons, List.foldl_nil, hlast]
      exact Nat.div_add_mod' n 10

lemma forall_mem_natText {P : Char → Prop} (h : ∀ k : Fin 10, P (Char.ofNat (48 + k.val))) (n : Nat) :
    ∀ c ∈ natText n, P c := by
  induction n using Nat.strong_induction_on with
  | _ n ih =>
    by_cases hn : n < 10
    · rw [natText_of_lt hn]
      exact List.forall_mem_singleton.mpr (h ⟨n, hn⟩)
    · rw [natText_of_ge (Nat.le_of_not_lt hn), List.forall_mem_append]
      exact ⟨ih (n / 10) (by omega), List.forall_mem_singleton.mpr (digit_mod_ten h n)⟩

lemma natText_cons (n : Nat) : ∃ d text, natText n = d :: text ∧
    (if n = 0 then d = '0' ∧ text = [] else isDigit d = true ∧ d ≠ '0') := by
  induction n using Nat.strong_induction_on with
  | _ n ih =>
    by_cases hn : n < 10
    · have hall : ∀ k : Fin 10, if k.val = 0 then Char.ofNat (48 + k.val) = '0'
          else isDigit (Char.ofNat (48 + k.val)) = true ∧ Char.ofNat (48 + k.val) ≠ '0' := by decide
      refine ⟨_, [], natText_of_lt hn, ?_⟩
      have hk := hall ⟨n, hn⟩
      split_ifs at hk ⊢
      · exact ⟨hk, rfl⟩
      · exact hk
    · obtain ⟨d, text, htext, hd⟩ := ih (n / 10) (by omega)
      rw [if_neg (by omega)] at hd
      refine ⟨d, text ++ [Char.ofNat (48 + n % 10)], ?_, ?_⟩
      · rw [natText_of_ge (Nat.le_of_not_lt hn), htext, List.cons_append]
      · rw [if_neg (by omega)]
        exact hd

namespace NumberState

lemma foldlM_next_digits (h : ∀ c ∈ text, isDigit c = true) :
    text.foldlM next int = some int := by
  induction text with
  | nil => rfl
  | cons c text ih =>
    obtain ⟨hc, htext⟩ := List.forall_mem_cons.mp h
    rw [List.foldlM_cons, next, if_pos hc]
    exact ih htext

lemma exists_natText (n : Nat) : ∃ d text state state', natText n = d :: text ∧ isDigit d = true ∧
    start d = some state ∧ minus.next d = some state ∧ text.foldlM next state = some state' ∧
      (state' = zero ∨ state' = int) := by
  obtain ⟨d, text, htext, hd⟩ := natText_cons n
  split_ifs at hd with hn
  · obtain ⟨rfl, rfl⟩ := hd
    exact ⟨_, _, zero, zero, htext, rfl, rfl, rfl, rfl, .inl rfl⟩
  · have hminus : d ≠ '-' := by
      rintro rfl
      cases hd.1
    have hdigits : ∀ c ∈ text, isDigit c = true := by
      have hall := forall_mem_natText (P := fun c => isDigit c = true) (by decide) n
      rw [htext] at hall
      exact (List.forall_mem_cons.mp hall).2
    refine ⟨d, text, int, int, htext, hd.1, ?_, ?_, foldlM_next_digits hdigits, .inr rfl⟩
    · rw [start, if_neg hminus, if_neg hd.2, if_pos hd.1]
    · rw [next, if_neg hd.2, if_pos hd.1]

end NumberState

lemma foldlM_number {state state' : NumberState}
    (h : text.foldlM NumberState.next state = some state') (stack : List Frame) (read : List Char) :
    text.foldlM step { stack := stack, mode := .number state read } =
      some { stack := stack, mode := .number state' (text.reverse ++ read) } := by
  induction text generalizing state read with
  | nil =>
    cases h
    rfl
  | cons c text ih =>
    rw [List.foldlM_cons] at h ⊢
    obtain ⟨next, hnext, hrest⟩ := Option.bind_eq_some_iff.mp h
    have hone : step { stack := stack, mode := .number state read } c =
        some { stack := stack, mode := .number next (c :: read) } := by
      simp only [step, hnext]
    rw [hone, Option.bind_eq_bind, Option.bind_some, ih hrest, List.reverse_cons, List.append_assoc]
    rfl

def IsEnd (c : Char) : Prop := c = ',' ∨ c = '}'

lemma step_digit {d : Char} {state : NumberState} (hd : isDigit d = true)
    (hstart : NumberState.start d = some state) (stack : List Frame) :
    step { stack := stack, mode := .value } d = some { stack := stack, mode := .number state [d] } := by
  have hblank : ¬isBlank d = true := by
    simp only [isBlank, Bool.or_eq_true, decide_eq_true_eq]
    rintro (((rfl | rfl) | rfl) | rfl) <;> cases hd
  simp only [step]
  rw [if_neg hblank]
  unfold beginValue
  split
  case h_7 => rw [hstart, Option.map_some]
  all_goals cases hd

lemma foldlM_intText (n : Int) (hc : IsEnd c) (stack : List Frame) (rest : List Char) :
    (intText n ++ c :: rest).foldlM step { stack := stack, mode := .value } =
      (afterValue (completed stack (.num (intText n))) c).bind (rest.foldlM step) := by
  obtain ⟨d, text, state, state', htext, hd, hstart, hminus, hrun, hstate'⟩ :=
    NumberState.exists_natText n.natAbs
  -- where the machine stands before the character
  have hread : (intText n).foldlM step { stack := stack, mode := .value } =
      some { stack := stack, mode := .number state' (intText n).reverse } := by
    unfold intText
    split_ifs with hneg
    · have hsign : step { stack := stack, mode := .value } '-' =
          some { stack := stack, mode := .number .minus ['-'] } := rfl
      have hfirst : step { stack := stack, mode := .number .minus ['-'] } d =
          some { stack := stack, mode := .number state [d, '-'] } := by
        simp only [step, hminus]
      rw [htext, List.foldlM_cons, hsign, Option.bind_eq_bind, Option.bind_some, List.foldlM_cons, hfirst,
        Option.bind_eq_bind, Option.bind_some, foldlM_number hrun, List.reverse_cons, List.reverse_cons,
        List.append_assoc]
      rfl
    · rw [htext, List.foldlM_cons, step_digit hd hstart, Option.bind_eq_bind, Option.bind_some, foldlM_number hrun,
        List.reverse_cons]
  have hend : step { stack := stack, mode := .number state' (intText n).reverse } c =
      afterValue (completed stack (.num (intText n))) c := by
    rcases hstate' with rfl | rfl <;> rcases hc with rfl | rfl <;>
      simp only [step, NumberState.next, NumberState.isComplete, List.reverse_reverse] <;> rfl
  rw [List.foldlM_append, hread, Option.bind_eq_bind, Option.bind_some, List.foldlM_cons, hend]
  rfl

/-! ### Values -/

/-- A value that can be written: a text, an integer or an object. -/
inductive Tree
  | str (text : List Char)
  | int (n : Int)
  | obj (fields : List (String × Tree))

namespace Tree

def quoted (text : List Char) : List Char := '"' :: (literal text ++ ['"'])

mutual

def render : Tree → List Char
  | str text => quoted text
  | int n => intText n
  | obj fields => '{' :: renderFields fields

def renderFields : List (String × Tree) → List Char
  | [] => ['}']
  | field :: fields => renderField field ++ renderMore fields

def renderMore : List (String × Tree) → List Char
  | [] => ['}']
  | field :: fields => ',' :: (renderField field ++ renderMore fields)

def renderField : String × Tree → List Char
  | (name, v) => quoted name.toList ++ ':' :: v.render

end

mutual

def toJson : Tree → Json
  | str text => .str (literal text)
  | int n => .num (intText n)
  | obj fields => .obj (toJsonFields fields)

def toJsonFields : List (String × Tree) → List (String × Json)
  | [] => []
  | field :: fields => toJsonField field :: toJsonFields fields

def toJsonField : String × Tree → String × Json
  | (name, v) => (name, v.toJson)

end

mutual

def depth : Tree → Nat
  | str _ => 0
  | int _ => 0
  | obj fields => depths fields + 1

def depths : List (String × Tree) → Nat
  | [] => 0
  | field :: fields => max (fieldDepth field) (depths fields)

def fieldDepth : String × Tree → Nat
  | (_, v) => v.depth

end

lemma step_completed (stack : List Frame) (v : Json) (c : Char) :
    step (completed stack v) c = afterValue (completed stack v) c := by
  cases stack with
  | nil => rfl
  | cons frame stack => cases frame <;> rfl

lemma step_brace {stack : List Frame} (h : stack.length < maxNestingDepth) :
    step { stack := stack, mode := .value } '{' = some { stack := stack, mode := .keyOrEnd } :=
  if_pos h

lemma foldlM_str (text rest : List Char) (stack : List Frame) :
    (quoted text ++ rest).foldlM step { stack := stack, mode := .value } =
      rest.foldlM step (completed stack (.str (literal text))) := by
  have hopen : step { stack := stack, mode := .value } '"' =
      some { stack := stack, mode := .strText [] false } := rfl
  have hread := foldlM_quoted (fun text escaped => { stack := stack, mode := .strText text escaped })
    (fun text => (unquote text).map fun _ => completed stack (.str text)) (fun _ _ _ => rfl) text rest
  rw [quoted, List.cons_append, List.foldlM_cons, hopen, Option.bind_eq_bind, Option.bind_some,
    List.append_assoc, List.singleton_append, hread, unquote_literal]
  rfl

lemma foldlM_name (name : String) (read : List (String × Json)) (rest : List Char) (stack : List Frame) :
    (literal name.toList ++ '"' :: ':' :: rest).foldlM step
        { stack := stack, mode := .keyText read [] false } =
      rest.foldlM step { stack := .field read name :: stack, mode := .value } := by
  have hread := foldlM_quoted (fun text escaped => { stack := stack, mode := .keyText read text escaped })
    (fun text => (unquote text).map fun key => { stack := stack, mode := .colon read (String.ofList key) })
    (fun _ _ _ => rfl) name.toList (':' :: rest)
  rw [hread, unquote_literal, Option.map_some, Option.bind_some, String.ofList_toList]
  rfl

lemma renderMore_cons (fields : List (String × Tree)) : ∃ c more, renderMore fields = c :: more ∧ IsEnd c := by
  cases fields with
  | nil => exact ⟨'}', [], by rw [renderMore], .inr rfl⟩
  | cons field fields => exact ⟨',', _, by rw [renderMore], .inl rfl⟩

/-- The machine reads a value when nothing but the end of the value's text tells where it ends. -/
def Reads (v : Tree) (stack : List Frame) : Prop :=
  ∀ c, IsEnd c → ∀ rest, (v.render ++ c :: rest).foldlM step { stack := stack, mode := .value } =
    (afterValue (completed stack v.toJson) c).bind (rest.foldlM step)

def ReadsMore (fields : List (String × Tree)) (stack : List Frame) : Prop :=
  ∀ read rest, (renderMore fields ++ rest).foldlM step { stack := stack, mode := .afterField read } =
    rest.foldlM step (completed stack (.obj (read.reverse ++ toJsonFields fields)))

lemma foldlM_field {name : String} {v : Tree} {fields : List (String × Tree)} {stack : List Frame}
    {read : List (String × Json)} (hv : v.Reads (.field read name :: stack)) (hmore : ReadsMore fields stack)
    (rest : List Char) :
    (literal name.toList ++ '"' :: ':' :: (v.render ++ (renderMore fields ++ rest))).foldlM step
        { stack := stack, mode := .keyText read [] false } =
      rest.foldlM step (completed stack (.obj (read.reverse ++ toJsonFields ((name, v) :: fields)))) := by
  obtain ⟨c, more, hfields, hc⟩ := renderMore_cons fields
  have hafter := hmore ((name, v.toJson) :: read) rest
  rw [hfields, List.cons_append, List.foldlM_cons] at hafter
  rw [foldlM_name, hfields, List.cons_append, hv c hc, toJsonFields, toJsonField]
  rw [List.reverse_cons, List.append_assoc, List.singleton_append] at hafter
  exact hafter

mutual

theorem reads : (v : Tree) → {stack : List Frame} → v.depth + stack.length ≤ maxNestingDepth → v.Reads stack
  | str text, stack, _ => by
    intro c _ rest
    rw [render, toJson, foldlM_str, List.foldlM_cons, step_completed]
    rfl
  | int n, stack, _ => by
    intro c hc rest
    rw [render, toJson]
    exact foldlM_intText n hc stack rest
  | obj fields, stack, hdepth => by
    rw [depth] at hdepth
    intro c _ rest
    rw [render, toJson, List.cons_append, foldlM_object fields hdepth, List.foldlM_cons, step_completed]
    rfl

theorem foldlM_object : (fields : List (String × Tree)) → {stack : List Frame} →
    depths fields + 1 + stack.length ≤ maxNestingDepth → (rest : List Char) →
    ('{' :: (renderFields fields ++ rest)).foldlM step { stack := stack, mode := .value } =
      rest.foldlM step (completed stack (.obj (toJsonFields fields)))
  | [], stack, hdepth, rest => by
    rw [List.foldlM_cons, step_brace (by omega), renderFields, toJsonFields]
    rfl
  | (name, v) :: fields, stack, hdepth, rest => by
    have hname : step { stack := stack, mode := .keyOrEnd } '"' =
        some { stack := stack, mode := .keyText [] [] false } := rfl
    rw [depths, fieldDepth] at hdepth
    have hv : v.Reads (.field [] name :: stack) := reads v (by rw [List.length_cons]; omega)
    have hmore : ReadsMore fields stack := readsMore fields (by omega)
    have hrun := foldlM_field hv hmore rest
    rw [List.foldlM_cons, step_brace (by omega), Option.bind_eq_bind, Option.bind_some, renderFields, renderField,
      quoted]
    simp only [List.cons_append, List.append_assoc, List.nil_append]
    rw [List.foldlM_cons, hname]
    exact hrun

theorem readsMore : (fields : List (String × Tree)) → {stack : List Frame} →
    depths fields + 1 + stack.length ≤ maxNestingDepth → ReadsMore fields stack
  | [], stack, _ => by
    intro read rest
    rw [renderMore, toJsonFields, List.append_nil]
    rfl
  | (name, v) :: fields, stack, hdepth => by
    intro read rest
    have hcomma : step { stack := stack, mode := .afterField read } ',' =
        some { stack := stack, mode := .key read } := rfl
    have hname : step { stack := stack, mode := .key read } '"' =
        some { stack := stack, mode := .keyText read [] false } := rfl
    rw [depths, fieldDepth] at hdepth
    have hv : v.Reads (.field read name :: stack) := reads v (by rw [List.length_cons]; omega)
    have hmore : ReadsMore fields stack := readsMore fields (by omega)
    have hrun := foldlM_field hv hmore rest
    rw [renderMore, renderField, quoted]
    simp only [List.cons_append, List.append_assoc, List.nil_append]
    rw [List.foldlM_cons, hcomma, Option.bind_eq_bind, Option.bind_some, List.foldlM_cons, hname]
    exact hrun

end

theorem parse_render {fields : List (String × Tree)} (h : (obj fields).depth ≤ maxNestingDepth) :
    parse (utf8 (obj fields).render) = some (obj fields).toJson := by
  rw [depth] at h
  have hdepth : depths fields + 1 + ([] : List Frame).length ≤ maxNestingDepth := h
  have hrun := foldlM_object fields hdepth []
  rw [List.append_nil] at hrun
  rw [parse, runes_utf8, render, toJson, hrun]
  rfl

/-- A `map[string]string`, written in the order of its names. -/
def texts (h : AList fun _ : String => String) : Tree :=
  obj ((h.entries.mergeSort fun a b => !decide (b.1 < a.1)).map fun kv => (kv.1, str kv.2.toList))

lemma toJsonFields_append (l l' : List (String × Tree)) :
    toJsonFields (l ++ l') = toJsonFields l ++ toJsonFields l' := by
  induction l with
  | nil => rw [List.nil_append, toJsonFields, List.nil_append]
  | cons field l ih => rw [List.cons_append, toJsonFields, toJsonFields, ih, List.cons_append]

lemma toJsonFields_map {α : Type} (f : α → String × Tree) (l : List α) :
    toJsonFields (l.map f) = l.map fun a => toJsonField (f a) := by
  induction l with
  | nil => rw [List.map_nil, List.map_nil, toJsonFields]
  | cons a l ih => rw [List.map_cons, List.map_cons, toJsonFields, ih]

lemma depths_map_str {α : Type} (name : α → String) (text : α → List Char) (l : List α) :
    depths (l.map fun a => (name a, str (text a))) = 0 := by
  induction l with
  | nil => rw [List.map_nil, depths]
  | cons a l ih => rw [List.map_cons, depths, fieldDepth, depth, ih, Nat.max_self]

lemma depth_texts (h : AList fun _ : String => String) : (texts h).depth = 1 := by
  rw [texts, depth, depths_map_str]

end Tree

end Json

/-! ### Reading what was written -/

namespace Decoder

open Json

lemma run_string (old : String) (text : List Char) :
    string.run old (.str (literal text)) = some (String.ofList text) := by
  change (unquote (literal text)).map String.ofList = _
  rw [unquote_literal, Option.map_some]

lemma run_bytes (old data : List UInt8) : bytes.run old (.str (literal (Base64.encode data))) = some data := by
  change (unquote (literal (Base64.encode data))).bind Base64.decode = _
  rw [unquote_literal, Option.bind_some, Base64.decode_encode]

lemma run_time {zone t : Int} (h : Timestamp.format zone t = some text) (old : Int) :
    time.run old (.str (literal text)) = some t := by
  have hplain : ∀ c ∈ text, shortEscape c = none ∧ needsHex c = false := by
    refine Timestamp.forall_mem_format ?_ ?_ h
    · intro c hc
      exact digit_cases (P := fun c => shortEscape c = none ∧ needsHex c = false) (by decide) hc
    · intro c hc
      simp only [List.mem_cons, List.not_mem_nil, or_false] at hc
      rcases hc with rfl | rfl | rfl | rfl | rfl | rfl <;> decide
  change Timestamp.parse (literal text) = _
  rw [literal_eq_self hplain, Timestamp.parse_format h]

lemma readDigits_natText (n : Nat) : readDigits (natText n) = some n := by
  have hall := forall_mem_natText (P := fun c => isDigit c = true) (by decide) n
  have hne : natText n ≠ [] := Nat.toDigits_ne_nil
  rw [readDigits, if_pos ⟨hne, List.all_eq_true.mpr hall⟩, digits_natText]

lemma readInt_intText (n : Int) : readInt (intText n) = some n := by
  unfold intText
  split_ifs with hneg
  · rw [readInt.eq_1, readDigits_natText]
    simp only [Option.bind_eq_bind, Option.bind_some, Option.pure_def, Option.map_some]
    congr 1
    omega
  · obtain ⟨d, text, _, _, htext, hd, -⟩ := NumberState.exists_natText n.natAbs
    have hminus : ∀ digits, natText n.natAbs ≠ '-' :: digits := by
      intro digits h
      rw [htext] at h
      cases h
      cases hd
    rw [readInt.eq_2 _ hminus, readDigits_natText]
    simp only [Option.bind_eq_bind, Option.bind_some, Option.pure_def, Option.map_some]
    congr 1
    omega

lemma run_int64 {n : Int} (h : -2 ^ 63 ≤ n ∧ n < 2 ^ 63) (old : Int) :
    int64.run old (.num (intText n)) = some n := by
  change (readInt (intText n)).filter (fun n => decide (-2 ^ 63 ≤ n ∧ n < 2 ^ 63)) = some n
  rw [readInt_intText, Option.filter_some, if_pos (decide_eq_true h)]

lemma runMap_string (m : AList fun _ : String => String) (l : List (Σ _ : String, String)) :
    runMap string "" m (l.map fun kv => (kv.1, .str (literal kv.2.toList))) =
      some (l.foldl (fun acc kv => acc.insert kv.1 kv.2) m) := by
  induction l generalizing m with
  | nil => rfl
  | cons kv l ih =>
    rw [List.map_cons, runMap, run_string, String.ofList_toList]
    exact ih (m.insert kv.1 kv.2)

lemma run_texts (h : AList fun _ : String => String) : ∃ h' : AList fun _ : String => String,
    (map string "").run ∅ (Tree.texts h).toJson = some h' ∧ ∀ name, h'.lookup name = h.lookup name := by
  let sorted := h.entries.mergeSort fun a b => !decide (b.1 < a.1)
  have hperm : sorted.Perm h.entries := List.mergeSort_perm _ _
  have hnodup : sorted.NodupKeys := (List.perm_nodupKeys hperm).mpr h.nodupKeys
  refine ⟨sorted.foldl (fun acc kv => acc.insert kv.1 kv.2) ∅, ?_, ?_⟩
  · rw [Tree.texts, Tree.toJson, Tree.toJsonFields_map]
    simp only [Tree.toJsonField, Tree.toJson]
    exact runMap_string ∅ sorted
  · intro name
    have hlookup := lookup_foldl_insert id ⟨sorted, hnodup⟩ ∅ name
    rw [Option.map_id, AList.lookup_empty, Option.or_none] at hlookup
    exact hlookup.trans (AList.perm_lookup hperm)

end Decoder

end MailBaby.Lib
