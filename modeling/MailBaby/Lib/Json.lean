import MailBaby.Lib.Encoding

/-!
# JSON texts

A JSON text is read character by character by a machine with a stack of open arrays and objects.
-/

namespace MailBaby.Lib

inductive Json
  | null
  | bool (b : Bool)
  | num (text : List Char)
  | str (text : List Char)
  | arr (items : List Json)
  | obj (fields : List (String × Json))

namespace Json

/-! ### Strings -/

def hexDigit (c : Char) : Option Nat :=
  if '0' ≤ c ∧ c ≤ '9' then some (c.toNat - 48)
  else if 'a' ≤ c ∧ c ≤ 'f' then some (c.toNat - 87)
  else if 'A' ≤ c ∧ c ≤ 'F' then some (c.toNat - 55)
  else none

def hex₄ (a b c d : Char) : Option Nat := do
  let a ← hexDigit a
  let b ← hexDigit b
  let c ← hexDigit c
  let d ← hexDigit d
  some (((a * 16 + b) * 16 + c) * 16 + d)

def isHighSurrogate (n : Nat) : Bool := 0xD800 ≤ n && n < 0xDC00
def isLowSurrogate (n : Nat) : Bool := 0xDC00 ≤ n && n < 0xE000

def surrogatePair (high low : Nat) : Char :=
  Char.ofNat ((high - 0xD800) * 0x400 + (low - 0xDC00) + 0x10000)

def simpleEscape : Char → Option Char
  | '"' => some '"'
  | '\\' => some '\\'
  | '/' => some '/'
  | 'b' => some '\x08'
  | 'f' => some '\x0c'
  | 'n' => some '\n'
  | 'r' => some '\r'
  | 't' => some '\t'
  | _ => none

/-- The string that a literal stands for. Half of a surrogate pair reads as the replacement
character. -/
def unquote : List Char → Option (List Char)
  | [] => some []
  | '\\' :: 'u' :: a :: b :: c :: d :: rest => do
    let n ← hex₄ a b c d
    if isHighSurrogate n then
      match rest with
      | '\\' :: 'u' :: e :: f :: g :: h :: rest =>
        let m ← hex₄ e f g h
        if isLowSurrogate m then
          let text ← unquote rest
          some (surrogatePair n m :: text)
        else
          let text ← unquote ('\\' :: 'u' :: e :: f :: g :: h :: rest)
          some (replacementChar :: text)
      | rest =>
        let text ← unquote rest
        some (replacementChar :: text)
    else
      let text ← unquote rest
      some ((if isLowSurrogate n then replacementChar else Char.ofNat n) :: text)
  | '\\' :: c :: rest => do
    let c ← simpleEscape c
    let text ← unquote rest
    some (c :: text)
  | '\\' :: [] => none
  | c :: rest => do
    let text ← unquote rest
    some (c :: text)
termination_by structural text => text

/-! ### Numbers -/

inductive NumberState
  | minus
  | zero
  | int
  | point
  | fraction
  | e
  | sign
  | exponent
  deriving DecidableEq, Repr

namespace NumberState

def start (c : Char) : Option NumberState :=
  if c = '-' then some minus else if c = '0' then some zero else if isDigit c then some int else none

def next (n : NumberState) (c : Char) : Option NumberState :=
  match n with
  | minus => if c = '0' then some zero else if isDigit c then some int else none
  | zero => if c = '.' then some point else if c = 'e' ∨ c = 'E' then some e else none
  | int =>
    if isDigit c then some int
    else if c = '.' then some point else if c = 'e' ∨ c = 'E' then some e else none
  | point => if isDigit c then some fraction else none
  | fraction => if isDigit c then some fraction else if c = 'e' ∨ c = 'E' then some e else none
  | e => if c = '+' ∨ c = '-' then some sign else if isDigit c then some exponent else none
  | sign => if isDigit c then some exponent else none
  | exponent => if isDigit c then some exponent else none

def isComplete : NumberState → Bool
  | zero => true
  | int => true
  | fraction => true
  | exponent => true
  | _ => false

end NumberState

/-! ### The machine -/

/-- An open array or object, with what was read of it, last first. -/
inductive Frame
  | item (items : List Json)
  | field (fields : List (String × Json)) (key : String)

/-- `text` is the part of a literal that was read, last character first; `awaited` the part that is
still to come. -/
inductive Mode
  | value
  | valueOrEnd
  | key (fields : List (String × Json))
  | keyOrEnd
  | keyText (fields : List (String × Json)) (text : List Char) (escaped : Bool)
  | colon (fields : List (String × Json)) (key : String)
  | strText (text : List Char) (escaped : Bool)
  | number (state : NumberState) (text : List Char)
  | literal (awaited : List Char) (result : Json)
  | afterItem (items : List Json)
  | afterField (fields : List (String × Json))
  | done (result : Json)

structure Machine where
  stack : List Frame := []
  mode : Mode := .value

def isBlank (c : Char) : Bool := c = ' ' || c = '\t' || c = '\r' || c = '\n'

def maxNestingDepth : Nat := 10000

def completed (stack : List Frame) (v : Json) : Machine :=
  match stack with
  | [] => { mode := .done v }
  | .item items :: stack => { stack := stack, mode := .afterItem (v :: items) }
  | .field fields key :: stack => { stack := stack, mode := .afterField ((key, v) :: fields) }

def beginValue (stack : List Frame) (c : Char) : Option Machine :=
  match c with
  | '{' => if stack.length < maxNestingDepth then some { stack := stack, mode := .keyOrEnd } else none
  | '[' => if stack.length < maxNestingDepth then some { stack := stack, mode := .valueOrEnd } else none
  | '"' => some { stack := stack, mode := .strText [] false }
  | 't' => some { stack := stack, mode := .literal ['r', 'u', 'e'] (.bool true) }
  | 'f' => some { stack := stack, mode := .literal ['a', 'l', 's', 'e'] (.bool false) }
  | 'n' => some { stack := stack, mode := .literal ['u', 'l', 'l'] .null }
  | c => (NumberState.start c).map fun state => { stack := stack, mode := .number state [c] }

def afterValue (m : Machine) (c : Char) : Option Machine :=
  if isBlank c then some m
  else match m.mode, c with
    | .afterItem items, ',' => some { stack := .item items :: m.stack, mode := .value }
    | .afterItem items, ']' => some (completed m.stack (.arr items.reverse))
    | .afterField fields, ',' => some { m with mode := .key fields }
    | .afterField fields, '}' => some (completed m.stack (.obj fields.reverse))
    | _, _ => none

/-- A character inside a string: the closing quote goes to `close`. -/
def inString (c : Char) (text : List Char) (escaped : Bool) (goOn : List Char → Bool → Machine)
    (close : List Char → Option Machine) : Option Machine :=
  if c.toNat < 0x20 then none
  else if escaped then some (goOn (c :: text) false)
  else if c = '"' then close text.reverse
  else some (goOn (c :: text) (c = '\\'))

def step (m : Machine) (c : Char) : Option Machine :=
  match m.mode with
  | .value => if isBlank c then some m else beginValue m.stack c
  | .valueOrEnd =>
    if isBlank c then some m
    else if c = ']' then some (completed m.stack (.arr []))
    else beginValue (.item [] :: m.stack) c
  | .keyOrEnd =>
    if isBlank c then some m
    else if c = '}' then some (completed m.stack (.obj []))
    else if c = '"' then some { m with mode := .keyText [] [] false }
    else none
  | .key fields =>
    if isBlank c then some m
    else if c = '"' then some { m with mode := .keyText fields [] false }
    else none
  | .keyText fields text escaped =>
    inString c text escaped (fun text escaped => { m with mode := .keyText fields text escaped })
      fun text => (unquote text).map fun key => { m with mode := .colon fields (String.ofList key) }
  | .colon fields key =>
    if isBlank c then some m
    else if c = ':' then some { stack := .field fields key :: m.stack, mode := .value }
    else none
  | .strText text escaped =>
    inString c text escaped (fun text escaped => { m with mode := .strText text escaped })
      fun text => (unquote text).map fun _ => completed m.stack (.str text)
  | .number state text =>
    match state.next c with
    | some state => some { m with mode := .number state (c :: text) }
    | none =>
      if state.isComplete then afterValue (completed m.stack (.num text.reverse)) c else none
  | .literal (d :: awaited) result =>
    if c = d then
      some (if awaited.isEmpty then completed m.stack result else { m with mode := .literal awaited result })
    else none
  | .literal [] _ => none
  | .afterItem _ => afterValue m c
  | .afterField _ => afterValue m c
  | .done _ => afterValue m c

def finish (m : Machine) : Option Json :=
  match m.mode, m.stack with
  | .done v, _ => some v
  | .number state text, [] => if state.isComplete then some (.num text.reverse) else none
  | _, _ => none

def parse (bytes : List UInt8) : Option Json := ((runes bytes).foldlM step {}).bind finish

/-- The text is an object whose entries pass the test. -/
def testObject (test : List (String × Json) → Bool) (bytes : List UInt8) : Bool :=
  match parse bytes with
  | some (obj entries) => test entries
  | _ => false

lemma exists_of_testObject (test : List (String × Json) → Bool) {bytes : List UInt8}
    (h : testObject test bytes = true) :
    ∃ entries, parse bytes = some (obj entries) ∧ test entries = true := by
  unfold testObject at h
  split at h
  · rename_i entries hparse
    exact ⟨entries, hparse, h⟩
  · cases h

/-! ### A value is shorter than the text it was read from -/

mutual

def size : Json → Nat
  | null => 0
  | bool _ => 0
  | num text => text.length
  | str text => text.length
  | arr items => sizes items
  | obj fields => fieldSizes fields

def sizes : List Json → Nat
  | [] => 0
  | v :: items => v.size + 1 + sizes items

def fieldSizes : List (String × Json) → Nat
  | [] => 0
  | field :: fields => fieldSize field + 1 + fieldSizes fields

def fieldSize : String × Json → Nat
  | (_, v) => v.size

end

lemma fieldSize_eq (field : String × Json) : fieldSize field = field.2.size := by
  obtain ⟨key, v⟩ := field
  rw [fieldSize]

lemma sizes_append (items later : List Json) : sizes (items ++ later) = sizes items + sizes later := by
  induction items with
  | nil => simp [sizes]
  | cons v items ih => simp only [List.cons_append, sizes, ih]; omega

lemma fieldSizes_append (fields later : List (String × Json)) :
    fieldSizes (fields ++ later) = fieldSizes fields + fieldSizes later := by
  induction fields with
  | nil => simp [fieldSizes]
  | cons field fields ih => simp only [List.cons_append, fieldSizes, ih]; omega

@[simp] lemma sizes_reverse (items : List Json) : sizes items.reverse = sizes items := by
  induction items with
  | nil => rfl
  | cons v items ih => rw [List.reverse_cons, sizes_append, ih]; simp only [sizes]; omega

@[simp] lemma fieldSizes_reverse (fields : List (String × Json)) :
    fieldSizes fields.reverse = fieldSizes fields := by
  induction fields with
  | nil => rfl
  | cons field fields ih => rw [List.reverse_cons, fieldSizes_append, ih]; simp only [fieldSizes]; omega

lemma length_le_sizes (items : List Json) : items.length ≤ sizes items := by
  induction items with
  | nil => exact Nat.le_refl 0
  | cons v items ih => simp only [List.length_cons, sizes]; omega

lemma size_lt_of_mem {fields : List (String × Json)} {field : String × Json} (h : field ∈ fields) :
    field.2.size < (obj fields).size := by
  induction fields with
  | nil => cases h
  | cons first fields ih =>
    simp only [size, fieldSizes] at ih ⊢
    rcases List.mem_cons.mp h with rfl | h
    · have hfield := fieldSize_eq field
      omega
    · have := ih h
      omega

def Frame.size : Frame → Nat
  | .item items => sizes items + 1
  | .field fields _ => fieldSizes fields + 1

def stackSize : List Frame → Nat
  | [] => 0
  | frame :: stack => frame.size + stackSize stack

def Mode.size : Mode → Nat
  | .value => 0
  | .valueOrEnd => 1
  | .key fields => fieldSizes fields
  | .keyOrEnd => 0
  | .keyText fields _ _ => fieldSizes fields
  | .colon fields _ => fieldSizes fields
  | .strText text _ => text.length
  | .number _ text => text.length
  | .literal _ result => result.size
  | .afterItem items => sizes items
  | .afterField fields => fieldSizes fields
  | .done result => result.size

def Machine.size (m : Machine) : Nat := stackSize m.stack + m.mode.size

lemma size_completed (stack : List Frame) (v : Json) :
    (completed stack v).size = stackSize stack + v.size := by
  cases stack with
  | nil => rfl
  | cons frame stack =>
    cases frame <;>
      simp only [completed, Machine.size, Mode.size, Frame.size, sizes, fieldSizes, fieldSize,
        stackSize] <;> omega

lemma size_beginValue_le {stack : List Frame} {c : Char} {m : Machine}
    (h : beginValue stack c = some m) : m.size ≤ stackSize stack + 1 := by
  unfold beginValue at h
  split at h
  · split_ifs at h
    cases h
    exact Nat.le_succ _
  · split_ifs at h
    cases h
    exact Nat.le_refl _
  iterate 4
    · cases h
      exact Nat.le_succ _
  · obtain ⟨state, -, rfl⟩ := Option.map_eq_some_iff.mp h
    exact Nat.le_refl _

lemma size_afterValue_le {m m' : Machine} {c : Char} (h : afterValue m c = some m') :
    m'.size ≤ m.size + 1 := by
  unfold afterValue at h
  split_ifs at h with hblank
  · cases h
    exact Nat.le_succ _
  · split at h
    · rename_i items hmode
      cases h
      simp only [Machine.size, hmode, Mode.size, stackSize, Frame.size]
      omega
    · rename_i items hmode
      cases h
      rw [size_completed, size, sizes_reverse, Machine.size, hmode]
      exact Nat.le_succ _
    · rename_i fields hmode
      cases h
      rw [Machine.size, Machine.size, hmode]
      exact Nat.le_succ _
    · rename_i fields hmode
      cases h
      rw [size_completed, size, fieldSizes_reverse, Machine.size, hmode]
      exact Nat.le_succ _
    · cases h

lemma size_inString_le {c : Char} {text : List Char} {escaped : Bool} {goOn : List Char → Bool → Machine}
    {close : List Char → Option Machine} {m' : Machine} {n : Nat}
    (h : inString c text escaped goOn close = some m') (hgoOn : ∀ b, (goOn (c :: text) b).size ≤ n)
    (hclose : ∀ m, close text.reverse = some m → m.size ≤ n) : m'.size ≤ n := by
  unfold inString at h
  split_ifs at h
  · cases h
    exact hgoOn _
  · exact hclose m' h
  · cases h
    exact hgoOn _

lemma size_step_le {m m' : Machine} {c : Char} (h : step m c = some m') : m'.size ≤ m.size + 1 := by
  obtain ⟨stack, mode⟩ := m
  cases mode with
  | value =>
    simp only [step] at h
    split_ifs at h
    · cases h
      exact Nat.le_succ _
    · exact size_beginValue_le h
  | valueOrEnd =>
    simp only [step] at h
    split_ifs at h
    · cases h
      exact Nat.le_succ _
    · cases h
      rw [size_completed]
      exact Nat.le_add_right _ 2
    · refine Nat.le_trans (size_beginValue_le h) ?_
      simp only [stackSize, Frame.size, sizes, Machine.size, Mode.size]
      omega
  | key fields =>
    simp only [step] at h
    split_ifs at h <;> cases h <;> exact Nat.le_succ _
  | keyOrEnd =>
    simp only [step] at h
    split_ifs at h
    · cases h
      exact Nat.le_succ _
    · cases h
      rw [size_completed]
      exact Nat.le_succ _
    · cases h
      exact Nat.le_succ _
  | keyText fields text escaped =>
    simp only [step] at h
    refine size_inString_le h (fun _ => Nat.le_succ _) ?_
    intro m hclose
    obtain ⟨key, -, rfl⟩ := Option.map_eq_some_iff.mp hclose
    exact Nat.le_succ _
  | colon fields key =>
    simp only [step] at h
    split_ifs at h
    · cases h
      exact Nat.le_succ _
    · cases h
      simp only [Machine.size, stackSize, Frame.size, Mode.size]
      omega
  | strText text escaped =>
    simp only [step] at h
    refine size_inString_le h (fun _ => Nat.le_refl _) ?_
    intro m hclose
    obtain ⟨_, -, rfl⟩ := Option.map_eq_some_iff.mp hclose
    rw [size_completed, size, List.length_reverse]
    exact Nat.le_succ _
  | number state text =>
    simp only [step] at h
    split at h
    · cases h
      exact Nat.le_refl _
    · split_ifs at h
      refine Nat.le_trans (size_afterValue_le h) ?_
      rw [size_completed, size, List.length_reverse]
      exact Nat.le_refl _
  | literal awaited result =>
    cases awaited with
    | nil => cases h
    | cons d awaited =>
      simp only [step] at h
      split_ifs at h <;> cases h
      · rw [size_completed]
        exact Nat.le_succ _
      · exact Nat.le_succ _
  | afterItem items => exact size_afterValue_le h
  | afterField fields => exact size_afterValue_le h
  | done result => exact size_afterValue_le h

lemma size_foldlM_step_le {text : List Char} {m m' : Machine} (h : text.foldlM step m = some m') :
    m'.size ≤ m.size + text.length := by
  induction text generalizing m with
  | nil =>
    cases h
    exact Nat.le_refl _
  | cons c text ih =>
    rw [List.foldlM_cons] at h
    obtain ⟨m₁, hstep, hrest⟩ := Option.bind_eq_some_iff.mp h
    have hone := size_step_le hstep
    have hlater := ih hrest
    rw [List.length_cons]
    omega

lemma size_finish_le {m : Machine} {v : Json} (h : finish m = some v) : v.size ≤ m.size := by
  obtain ⟨stack, mode⟩ := m
  unfold finish at h
  split at h
  · cases h
    simp_all [Machine.size, Mode.size]
  · split_ifs at h
    cases h
    simp_all [Machine.size, Mode.size, size]
  · cases h

theorem size_le_of_parse {bytes : List UInt8} {v : Json} (h : parse bytes = some v) :
    v.size ≤ bytes.length := by
  obtain ⟨m, hrun, hfinish⟩ := Option.bind_eq_some_iff.mp h
  have hstart : Machine.size {} = 0 := rfl
  have hsize := size_foldlM_step_le hrun
  rw [hstart, Nat.zero_add] at hsize
  calc v.size ≤ m.size := size_finish_le hfinish
    _ ≤ (runes bytes).length := hsize
    _ ≤ bytes.length := length_runes_le bytes

lemma length_le_of_bind_cons {read : Option (List Char)} {c : Char} {unquoted : List Char} {n : Nat}
    (h : (read.bind fun text => some (c :: text)) = some unquoted)
    (hread : ∀ text, read = some text → text.length ≤ n) : unquoted.length ≤ n + 1 := by
  obtain ⟨text, htext, hcons⟩ := Option.bind_eq_some_iff.mp h
  cases hcons
  exact Nat.succ_le_succ (hread text htext)

lemma length_unquote_le {text unquoted : List Char} (h : unquote text = some unquoted) :
    unquoted.length ≤ text.length := by
  fun_induction unquote text generalizing unquoted with
  | case1 =>
    cases h
    exact Nat.le_refl 0
  | case2 a b c d rest ihpair ihrest =>
    have hle : unquoted.length ≤ rest.length + 1 := by
      obtain ⟨n, -, h⟩ := Option.bind_eq_some_iff.mp h
      split_ifs at h
      · split at h
        · obtain ⟨m, -, h⟩ := Option.bind_eq_some_iff.mp h
          split_ifs at h
          · have := length_le_of_bind_cons h fun _ => ihpair.1
            simp only [List.length_cons]
            omega
          · exact length_le_of_bind_cons h fun _ => ihpair.2
        · exact length_le_of_bind_cons h fun _ => ihrest
      all_goals exact length_le_of_bind_cons h fun _ => ihrest
    simp only [List.length_cons]
    omega
  | case3 c rest _ ih =>
    obtain ⟨_, -, h⟩ := Option.bind_eq_some_iff.mp h
    exact Nat.le_succ_of_le (length_le_of_bind_cons h fun _ => ih)
  | case4 => cases h
  | case5 c rest _ _ _ ih => exact length_le_of_bind_cons h fun _ => ih

end Json

end MailBaby.Lib
