import Mathlib.Data.List.DropRight
import MailBaby.Lib.Encoding

/-!
# MIME messages

A message is a header block, an empty line and a body; the body of a multipart message holds further
messages between delimiter lines. `Entity.render` writes a message and `parse` reads its contents.
-/

namespace MailBaby.Lib.Mime

abbrev Text := List Char

/-! ### Lines -/

def isBreak (c : Char) : Bool := c = '\r' || c = '\n'

def hasBreak (t : Text) : Bool := t.any isBreak

def crlf : Text := ['\r', '\n']

def consHead (c : Char) : List Text → List Text
  | [] => [[c]]
  | l :: ls => (c :: l) :: ls

/-- The lines of a text as a lenient reader sees them: a line ends at CR LF, at CR or at LF. -/
def lines : Text → List Text
  | [] => [[]]
  | '\r' :: '\n' :: rest => [] :: lines rest
  | c :: rest => if isBreak c then [] :: lines rest else consHead c (lines rest)

@[simp] lemma hasBreak_nil : hasBreak [] = false := rfl

@[simp] lemma hasBreak_cons (c : Char) (t : Text) : hasBreak (c :: t) = (isBreak c || hasBreak t) := rfl

@[simp] lemma hasBreak_append (s t : Text) : hasBreak (s ++ t) = (hasBreak s || hasBreak t) :=
  List.any_append

lemma isBreak_of_le {c : Char} (h : 128 ≤ c.toNat) : isBreak c = false := by
  refine Bool.or_eq_false_iff.mpr ⟨decide_eq_false ?_, decide_eq_false ?_⟩
  · rintro rfl
    exact absurd h (by decide)
  · rintro rfl
    exact absurd h (by decide)

lemma hasBreak_flatMap {t : Text} {f : Char → Text} (h : ∀ c ∈ t, hasBreak (f c) = false) :
    hasBreak (t.flatMap f) = false := by
  induction t with
  | nil => rfl
  | cons c t ih =>
    rw [List.forall_mem_cons] at h
    rw [List.flatMap_cons, hasBreak_append, h.1, ih h.2]
    rfl

lemma hasBreak_filter (t : Text) : hasBreak (t.filter fun c => !isBreak c) = false := by
  rw [hasBreak, List.any_eq_false]
  intro c hc hbreak
  have hkept := (List.mem_filter.mp hc).2
  rw [hbreak] at hkept
  cases hkept

lemma consHead_append {c : Char} {ls : List Text} (h : ls ≠ []) (ms : List Text) :
    consHead c (ls ++ ms) = consHead c ls ++ ms := by
  cases ls with
  | nil => exact absurd rfl h
  | cons l ls => rfl

lemma lines_cons {c : Char} {rest : Text} (h : c = '\r' → rest.head? ≠ some '\n') :
    lines (c :: rest) = if isBreak c then [] :: lines rest else consHead c (lines rest) := by
  rw [lines.eq_3]
  rintro tail rfl rfl
  exact h rfl rfl

lemma lines_ne_nil (t : Text) : lines t ≠ [] := by
  fun_cases lines t with
  | case1 => exact List.cons_ne_nil _ _
  | case2 rest => exact List.cons_ne_nil _ _
  | case3 c rest _ => exact List.cons_ne_nil _ _
  | case4 c rest _ => cases lines rest <;> exact List.cons_ne_nil _ _

@[simp] lemma lines_append_crlf (s t : Text) : lines (s ++ (crlf ++ t)) = lines s ++ lines t := by
  fun_induction lines s with
  | case1 => rfl
  | case2 rest ih => exact congrArg ([] :: ·) ih
  | case3 c rest hpair hbreak ih =>
    have hhead : c = '\r' → (rest ++ (crlf ++ t)).head? ≠ some '\n' := by
      rintro rfl hhead
      cases rest with
      | nil => cases hhead
      | cons d rest =>
        cases hhead
        exact hpair rest rfl rfl
    rw [List.cons_append, lines_cons hhead, if_pos hbreak, ih]
    rfl
  | case4 c rest hpair hbreak ih =>
    have hhead : c = '\r' → (rest ++ (crlf ++ t)).head? ≠ some '\n' := by
      rintro rfl
      exact absurd rfl hbreak
    rw [List.cons_append, lines_cons hhead, if_neg hbreak, ih, consHead_append (lines_ne_nil rest)]

lemma lines_of_hasBreak {t : Text} (h : hasBreak t = false) : lines t = [t] := by
  induction t with
  | nil => rfl
  | cons c t ih =>
    rw [hasBreak_cons, Bool.or_eq_false_iff] at h
    have hhead : c = '\r' → t.head? ≠ some '\n' := by
      rintro rfl
      cases h.1
    rw [lines_cons hhead, if_neg (by simp [h.1]), ih h.2]
    rfl

lemma head?_lines (t : Text) : (lines t).head? = some (t.takeWhile fun c => !isBreak c) := by
  fun_induction lines t with
  | case1 => rfl
  | case2 rest ih => rfl
  | case3 c rest _ hbreak ih => rw [List.takeWhile_cons, hbreak]; rfl
  | case4 c rest _ hbreak ih =>
    rw [List.takeWhile_cons, eq_false_of_ne_true hbreak]
    cases hlines : lines rest with
    | nil => exact absurd hlines (lines_ne_nil rest)
    | cons l ls =>
      rw [hlines] at ih
      cases ih
      rfl

lemma flatten_lines (t : Text) : (lines t).flatten = t.filter fun c => !isBreak c := by
  fun_induction lines t with
  | case1 => rfl
  | case2 rest ih => exact ih
  | case3 c rest _ hbreak ih => rw [List.filter_cons, hbreak]; exact ih
  | case4 c rest _ hbreak ih =>
    rw [List.filter_cons, eq_false_of_ne_true hbreak, ← ih]
    cases lines rest <;> rfl

lemma mem_of_mem_lines {t l : Text} {c : Char} (hl : l ∈ lines t) (hc : c ∈ l) :
    c ∈ t ∧ isBreak c = false := by
  have hmem : c ∈ (lines t).flatten := List.mem_flatten.mpr ⟨l, hl, hc⟩
  rw [flatten_lines, List.mem_filter, Bool.not_eq_true'] at hmem
  exact hmem

/-! Base64 text is a single line that does not start like a delimiter. -/

lemma isBreak_of_mem_encode {data : List UInt8} {c : Char} (h : c ∈ Base64.encode data) :
    isBreak c = false ∧ c ≠ '-' := by
  have hdigits : ∀ k : Fin 64, isBreak (Base64.digit k.val) = false ∧ Base64.digit k.val ≠ '-' := by decide
  rcases Base64.mem_encode h with rfl | ⟨n, rfl⟩
  · decide
  · exact Base64.digit_induction (P := fun c => isBreak c = false ∧ c ≠ '-') hdigits n

/-! ### Header blocks -/

structure HeaderField where
  name : Text
  value : Text
  deriving DecidableEq

def HeaderField.line (f : HeaderField) : Text := f.name ++ ':' :: ' ' :: f.value

def headerBlock (fields : List HeaderField) : Text := fields.flatMap fun f => f.line ++ crlf

/-- Read line by line, the block has these fields and no others. -/
def Intact (fields : List HeaderField) : Prop :=
  lines (headerBlock fields) = fields.map HeaderField.line ++ [[]]

lemma headerBlock_append (fields more : List HeaderField) :
    headerBlock (fields ++ more) = headerBlock fields ++ headerBlock more := List.flatMap_append

lemma hasBreak_line (f : HeaderField) : hasBreak f.line = (hasBreak f.name || hasBreak f.value) := by
  rw [HeaderField.line, hasBreak_append]
  rfl

lemma lines_headerBlock_append (fields : List HeaderField) (t : Text) :
    lines (headerBlock fields ++ t) = fields.flatMap (fun f => lines f.line) ++ lines t := by
  induction fields with
  | nil => rfl
  | cons f fields ih =>
    have hblock : headerBlock (f :: fields) ++ t = f.line ++ (crlf ++ (headerBlock fields ++ t)) := by
      simp only [headerBlock, List.flatMap_cons, List.append_assoc]
    rw [hblock, lines_append_crlf, ih, List.flatMap_cons, List.append_assoc]

lemma flatMap_lines_eq_map {fields : List HeaderField} :
    fields.flatMap (fun f => lines f.line) = fields.map HeaderField.line ↔
      ∀ f ∈ fields, hasBreak f.line = false := by
  induction fields with
  | nil => simp
  | cons f fields ih =>
    rw [List.forall_mem_cons, ← ih, List.flatMap_cons, List.map_cons]
    constructor
    · intro h
      have hhead : f.line.takeWhile (fun c => !isBreak c) = f.line := by
        have hfirst := congrArg List.head? h
        rw [List.head?_append, head?_lines] at hfirst
        exact Option.some.inj hfirst
      have hbreak : hasBreak f.line = false := by
        rw [hasBreak, List.any_eq_false]
        rw [List.takeWhile_eq_self_iff] at hhead
        simpa using hhead
      rw [lines_of_hasBreak hbreak] at h
      exact ⟨hbreak, (List.cons.inj h).2⟩
    · rintro ⟨hbreak, hrest⟩
      rw [lines_of_hasBreak hbreak, hrest]
      rfl

lemma intact_iff {fields : List HeaderField} :
    Intact fields ↔ ∀ f ∈ fields, hasBreak f.line = false := by
  have hlines := lines_headerBlock_append fields []
  rw [List.append_nil] at hlines
  rw [Intact, hlines, ← flatMap_lines_eq_map]
  exact List.append_left_inj _

/-! ### Messages -/

def contentTypeName : Text := "Content-Type".toList

def multipartPrefix : Text := "multipart/".toList

def boundaryPrefix : Text := " boundary=\"".toList

/-- The content type of a multipart message, with its boundary between quotes. -/
def multipartField (subtype boundary : Text) : HeaderField where
  name := contentTypeName
  value := (multipartPrefix ++ subtype) ++ ';' :: (boundaryPrefix ++ (boundary ++ ['"']))

inductive Entity
  | leaf (fields : List HeaderField) (body : Text)
  | multi (fields : List HeaderField) (subtype boundary : Text) (parts : List Entity)

def delimiter (boundary : Text) : Text := '-' :: '-' :: boundary

def closeDelimiter (boundary : Text) : Text := delimiter boundary ++ ['-', '-']

/-- What starts a part: the line break before a delimiter belongs to it, and the first one has none. -/
def opening (started : Bool) (boundary : Text) : Text :=
  (if started then crlf else []) ++ delimiter boundary ++ crlf

def closing (boundary : Text) : Text := crlf ++ closeDelimiter boundary ++ crlf

namespace Entity

mutual

def render : Entity → Text
  | leaf fields body => headerBlock fields ++ (crlf ++ body)
  | multi fields subtype boundary parts =>
    headerBlock (fields ++ [multipartField subtype boundary]) ++ (crlf ++ renderParts boundary false parts)

def renderParts (boundary : Text) : Bool → List Entity → Text
  | _, [] => closing boundary
  | started, part :: parts => opening started boundary ++ (part.render ++ renderParts boundary true parts)

end

mutual

def blocks : Entity → List (List HeaderField)
  | leaf fields _ => [fields]
  | multi fields subtype boundary parts => (fields ++ [multipartField subtype boundary]) :: blocksAll parts

def blocksAll : List Entity → List (List HeaderField)
  | [] => []
  | part :: parts => part.blocks ++ blocksAll parts

end

def header : Entity → List HeaderField
  | leaf fields _ => fields
  | multi fields subtype boundary _ => fields ++ [multipartField subtype boundary]

lemma forall_mem_blocksAll {P : List HeaderField → Prop} (parts : List Entity) :
    (∀ block ∈ blocksAll parts, P block) ↔ ∀ part ∈ parts, ∀ block ∈ part.blocks, P block := by
  induction parts with
  | nil => simp [blocksAll]
  | cons part parts ih => rw [blocksAll, List.forall_mem_append, List.forall_mem_cons, ih]

end Entity

/-! ### Reading -/

def isBlank (c : Char) : Bool := c = ' ' || c = '\t'

def trim (t : Text) : Text := (t.dropWhile isBlank).rdropWhile isBlank

def lower (t : Text) : Text := t.map Char.toLower

/-- Joins a line that starts with a blank to the one before it. -/
def unfoldLines : List Text → List Text
  | [] => []
  | l :: ls =>
    match unfoldLines ls with
    | [] => [l]
    | next :: rest => if (next.head?.map isBlank).getD false then (l ++ next) :: rest else l :: next :: rest

def readField (line : Text) : HeaderField where
  name := line.takeWhile (· ≠ ':')
  value :=
    match (line.dropWhile (· ≠ ':')).drop 1 with
    | ' ' :: value => value
    | value => value

/-- The fields up to the first empty line, and the lines after it. -/
def readHeader (ls : List Text) : List HeaderField × List Text :=
  ((unfoldLines (ls.takeWhile (· ≠ []))).map readField, (ls.dropWhile (· ≠ [])).drop 1)

def lookup (name : String) (fields : List HeaderField) : Text :=
  ((fields.find? fun f => lower f.name = name.toList).map HeaderField.value).getD []

def mediaType (value : Text) : Text := lower (trim (value.takeWhile (· ≠ ';')))

def multipartSubtype (value : Text) : Option Text :=
  if multipartPrefix.isPrefixOf (mediaType value) then some ((mediaType value).drop 10) else none

/-- The pieces between semicolons; `quoted` tells whether the text starts inside quotes. -/
def pieces : Bool → Text → List Text
  | _, [] => [[]]
  | true, '\\' :: c :: rest => consHead '\\' (consHead c (pieces true rest))
  | quoted, c :: rest =>
    if c = ';' ∧ quoted = false then [] :: pieces false rest
    else consHead c (pieces (if c = '"' then !quoted else quoted) rest)

def unquoted : Text → Text
  | [] => []
  | '"' :: _ => []
  | '\\' :: c :: rest => c :: unquoted rest
  | c :: rest => c :: unquoted rest

def parameter (name : String) (piece : Text) : Option Text :=
  if lower ((trim piece).takeWhile (· ≠ '=')) = name.toList then
    match ((trim piece).dropWhile (· ≠ '=')).drop 1 with
    | '"' :: rest => some (unquoted rest)
    | value => some value
  else none

def declaredBoundary (value : Text) : Option Text :=
  ((pieces false value).drop 1).findSome? (parameter "boundary")

def isDelimiter (boundary line : Text) : Bool := line.rdropWhile isBlank = delimiter boundary

def isCloseDelimiter (boundary line : Text) : Bool := line.rdropWhile isBlank = closeDelimiter boundary

/-- The lines before the first delimiter, and the parts after it; the last part must be closed. -/
def sections (boundary : Text) : List Text → Option (List Text × List (List Text))
  | [] => none
  | line :: rest =>
    if isCloseDelimiter boundary line then some ([], [])
    else (sections boundary rest).map fun (before, parts) =>
      if isDelimiter boundary line then ([], before :: parts) else (line :: before, parts)

inductive Content
  | leaf (data : List UInt8)
  | multi (subtype : Text) (parts : List Content)

namespace Content

mutual

def leaves : Content → List (List UInt8)
  | leaf data => [data]
  | multi _ parts => leavesAll parts

def leavesAll : List Content → List (List UInt8)
  | [] => []
  | part :: parts => part.leaves ++ leavesAll parts

end

end Content

/-- The data of a part that is not a multipart message. -/
def readLeaf (fields : List HeaderField) (text : Text) : Option Content :=
  if lower (trim (lookup "content-transfer-encoding" fields)) = "base64".toList then
    (Base64.decode text).map .leaf
  else none

/-- Reads messages that are nested at most `depth` deep. -/
def readLines : (depth : Nat) → List Text → Option Content
  | 0, _ => none
  | depth + 1, ls =>
    let (fields, body) := readHeader ls
    let contentType := lookup "content-type" fields
    match multipartSubtype contentType with
    | none => readLeaf fields body.flatten
    | some subtype => do
      let boundary ← declaredBoundary contentType
      let (_, parts) ← sections boundary body
      let contents ← parts.mapM (readLines depth)
      some (.multi subtype contents)

def parse (depth : Nat) (text : Text) : Option Content := readLines depth (lines text)

end MailBaby.Lib.Mime
