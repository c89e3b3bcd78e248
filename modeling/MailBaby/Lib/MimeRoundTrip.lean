import MailBaby.Lib.Mime

/-!
# Reading a MIME message back

What is read from a rendered message is what it holds, provided that every header field fills one
line and that no line of a part looks like a delimiter of the messages around it.
-/

namespace MailBaby.Lib.Mime

variable {t other : Text} {c : Char} {parts : List Entity}

/-! ### Reading a header block back -/

/-- A field that fills one line, which is neither a continuation nor like a delimiter. -/
structure HeaderField.Sound (f : HeaderField) : Prop where
  hasBreak_line : hasBreak f.line = false
  colon : ':' ∉ f.name
  head : ∃ c rest, f.name = c :: rest ∧ c ≠ '-' ∧ isBlank c = false

lemma HeaderField.Sound.head?_line {f : HeaderField} (h : f.Sound) :
    ∃ c, f.line.head? = some c ∧ c ≠ '-' ∧ isBlank c = false := by
  obtain ⟨c, rest, hname, hc⟩ := h.head
  exact ⟨c, by rw [HeaderField.line, hname]; rfl, hc⟩

/-- A field whose line is not a continuation and can be taken apart at its colon. -/
structure HeaderField.Readable (f : HeaderField) : Prop where
  colon : ':' ∉ f.name
  head : ∃ c rest, f.name = c :: rest ∧ isBlank c = false

lemma HeaderField.Sound.readable {f : HeaderField} (h : f.Sound) : f.Readable := by
  obtain ⟨c, rest, hname, -, hblank⟩ := h.head
  exact ⟨h.colon, c, rest, hname, hblank⟩

lemma HeaderField.Readable.head?_line {f : HeaderField} (h : f.Readable) :
    ∃ c, f.line.head? = some c ∧ isBlank c = false := by
  obtain ⟨c, rest, hname, hc⟩ := h.head
  exact ⟨c, by rw [HeaderField.line, hname]; rfl, hc⟩

lemma unfoldLines_eq_self {ls : List Text} (h : ∀ l ∈ ls, (l.head?.map isBlank).getD false = false) :
    unfoldLines ls = ls := by
  induction ls with
  | nil => rfl
  | cons l ls ih =>
    rw [List.forall_mem_cons] at h
    rw [unfoldLines, ih h.2]
    cases ls with
    | nil => rfl
    | cons next rest => rw [List.forall_mem_cons] at h; simp [h.2.1]

lemma takeWhile_append_stop {p : Char → Bool} (ht : ∀ d ∈ t, p d = true)
    (hc : p c = false) (rest : Text) : (t ++ c :: rest).takeWhile p = t := by
  rw [List.takeWhile_append_of_pos ht, List.takeWhile_cons, hc]
  exact List.append_nil t

lemma dropWhile_append_stop {p : Char → Bool} (ht : ∀ d ∈ t, p d = true)
    (hc : p c = false) (rest : Text) : (t ++ c :: rest).dropWhile p = c :: rest := by
  rw [List.dropWhile_append_of_pos ht, List.dropWhile_cons, hc]
  rfl

lemma readField_line {f : HeaderField} (h : ':' ∉ f.name) : readField f.line = f := by
  have hname : ∀ c ∈ f.name, decide (c ≠ ':') = true := by
    intro c hc
    exact decide_eq_true fun heq => h (heq ▸ hc)
  rw [readField, HeaderField.line, takeWhile_append_stop hname rfl, dropWhile_append_stop hname rfl]
  rfl

lemma readHeader_append {fields : List HeaderField} (h : ∀ f ∈ fields, f.Readable) (body : List Text) :
    readHeader (fields.map HeaderField.line ++ [] :: body) = (fields, body) := by
  have hne : ∀ l ∈ fields.map HeaderField.line, decide (l ≠ []) = true := by
    intro l hl
    obtain ⟨f, hf, rfl⟩ := List.mem_map.mp hl
    obtain ⟨c, hc, -⟩ := (h f hf).head?_line
    apply decide_eq_true
    rintro hnil
    rw [hnil] at hc
    cases hc
  have hfold : ∀ l ∈ fields.map HeaderField.line, (l.head?.map isBlank).getD false = false := by
    intro l hl
    obtain ⟨f, hf, rfl⟩ := List.mem_map.mp hl
    obtain ⟨c, hc, hblank⟩ := (h f hf).head?_line
    rw [hc]
    exact hblank
  have hread : (fields.map HeaderField.line).map readField = fields := by
    rw [List.map_map]
    refine (List.map_congr_left (g := id) ?_).trans (List.map_id _)
    exact fun f hf => readField_line (h f hf).colon
  unfold readHeader
  rw [List.takeWhile_append_of_pos hne, List.dropWhile_append_of_pos hne]
  simp only [ne_eq, not_true_eq_false, decide_false, Bool.false_eq_true, not_false_eq_true,
    List.takeWhile_cons_of_neg, List.append_nil, List.dropWhile_cons_of_neg, List.drop_succ_cons,
    List.drop_zero, unfoldLines_eq_self hfold, hread]

lemma lookup_cons (name : String) (f : HeaderField) (fields : List HeaderField) :
    lookup name (f :: fields) = if lower f.name = name.toList then f.value else lookup name fields := by
  unfold lookup
  rw [List.find?_cons]
  by_cases hname : lower f.name = name.toList
  · rw [if_pos hname, decide_eq_true hname]
    rfl
  · rw [if_neg hname, decide_eq_false hname]

lemma lookup_append {name : String} {fields : List HeaderField}
    (h : ∀ f ∈ fields, lower f.name ≠ name.toList) (more : List HeaderField) :
    lookup name (fields ++ more) = lookup name more := by
  have hnone : fields.find? (fun f => lower f.name = name.toList) = none := by
    rw [List.find?_eq_none]
    intro f hf
    exact fun hname => h f hf (of_decide_eq_true hname)
  rw [lookup, List.find?_append, hnone, Option.none_or]
  rfl

/-! ### Reading the content type of a multipart message back -/

def isPlainChar (c : Char) : Bool := ('a' ≤ c && c ≤ 'z') || ('0' ≤ c && c ≤ '9')

def IsPlain (t : Text) : Prop := t.all isPlainChar = true

lemma IsPlain.char (h : IsPlain t) (hc : c ∈ t) : isPlainChar c = true :=
  List.all_eq_true.mp h c hc

lemma isPlainChar_of_le (h : 128 ≤ c.toNat) : isPlainChar c = false := by
  have hle {d : Char} (hd : c ≤ d) : 128 ≤ d.toNat := Nat.le_trans h (UInt32.le_iff_toNat_le.mp hd)
  have hz : ¬c ≤ 'z' := fun hz => absurd (hle hz) (by decide)
  have hnine : ¬c ≤ '9' := fun hnine => absurd (hle hnine) (by decide)
  rw [isPlainChar, decide_eq_false hz, decide_eq_false hnine, Bool.and_false, Bool.and_false]
  rfl

lemma isPlainChar_cases (h : isPlainChar c = true) :
    isBreak c = false ∧ isBlank c = false ∧ Char.toLower c = c ∧
      c ≠ '-' ∧ c ≠ ';' ∧ c ≠ '"' ∧ c ≠ '\\' := by
  revert h
  refine char_induction (P := fun c => isPlainChar c = true → isBreak c = false ∧ isBlank c = false ∧
    Char.toLower c = c ∧ c ≠ '-' ∧ c ≠ ';' ∧ c ≠ '"' ∧ c ≠ '\\') (by decide +kernel) ?_ c
  intro c hc h
  rw [isPlainChar_of_le hc] at h
  cases h

lemma IsPlain.hasBreak {t : Text} (h : IsPlain t) : hasBreak t = false := by
  rw [Mime.hasBreak, List.any_eq_false]
  intro c hc
  rw [(isPlainChar_cases (h.char hc)).1]
  exact Bool.false_ne_true

lemma rdropWhile_isBlank (hc : isBlank c = false) :
    (t ++ [c]).rdropWhile isBlank = t ++ [c] :=
  List.rdropWhile_concat_neg _ _ _ (by rw [hc]; exact Bool.false_ne_true)

lemma rdropWhile_append_plain {u : Text} (hc : isBlank c = false) (hu : IsPlain u) :
    (t ++ c :: u).rdropWhile isBlank = t ++ c :: u := by
  rcases List.eq_nil_or_concat u with rfl | ⟨v, d, rfl⟩
  · exact rdropWhile_isBlank hc
  · have hd := (isPlainChar_cases (hu.char (c := d) (by simp))).2.1
    have hassoc : t ++ c :: (v ++ [d]) = (t ++ c :: v) ++ [d] := by simp
    rw [List.concat_eq_append, hassoc, rdropWhile_isBlank hd]

lemma lower_plain (h : IsPlain t) : lower t = t := by
  refine (List.map_congr_left (g := id) ?_).trans (List.map_id _)
  exact fun c hc => (isPlainChar_cases (h.char hc)).2.2.1

lemma pieces_eq_self (h : ∀ c ∈ t, c ≠ ';' ∧ c ≠ '\\') (quoted : Bool) :
    pieces quoted t = [t] := by
  induction t generalizing quoted with
  | nil => cases quoted <;> rfl
  | cons c t ih =>
    rw [List.forall_mem_cons] at h
    have hcons : pieces quoted (c :: t) = consHead c (pieces (if c = '"' then !quoted else quoted) t) := by
      cases quoted with
      | false =>
        rw [pieces.eq_3, if_neg fun hc => h.1.1 hc.1]
        rintro d rest hfalse
        cases hfalse
      | true =>
        rw [pieces.eq_3, if_neg fun hc => h.1.1 hc.1]
        rintro d rest - hslash -
        exact h.1.2 hslash
    rw [hcons, ih h.2]
    rfl

lemma pieces_append_semicolon (h : ∀ c ∈ t, c ≠ ';' ∧ c ≠ '"') (rest : Text) :
    pieces false (t ++ ';' :: rest) = t :: pieces false rest := by
  induction t with
  | nil => rfl
  | cons c t ih =>
    rw [List.forall_mem_cons] at h
    rw [List.cons_append, pieces.eq_3, if_neg fun hc => h.1.1 hc.1, if_neg h.1.2, ih h.2]
    · rfl
    · rintro d more hfalse
      cases hfalse

lemma unquoted_append_quote (h : ∀ c ∈ t, c ≠ '"' ∧ c ≠ '\\') :
    unquoted (t ++ ['"']) = t := by
  induction t with
  | nil => rfl
  | cons c t ih =>
    rw [List.forall_mem_cons] at h
    have hcons : unquoted (c :: (t ++ ['"'])) = c :: unquoted (t ++ ['"']) := by
      rw [unquoted]
      · exact h.1.1
      · rintro d rest hslash -
        exact h.1.2 hslash
    rw [List.cons_append, hcons, ih h.2]

lemma trim_append_plain {d : Char} {u : Text} (hc : isBlank c = false) (hd : isBlank d = false)
    (hu : IsPlain u) : trim (c :: (t ++ d :: u)) = c :: (t ++ d :: u) := by
  rw [trim, List.dropWhile_cons, hc]
  exact rdropWhile_append_plain (t := c :: t) hd hu

section MultipartField

variable {subtype boundary : Text} (hsubtype : IsPlain subtype) (hboundary : IsPlain boundary)

include hsubtype in
lemma multipartSubtype_multipartField :
    multipartSubtype (multipartField subtype boundary).value = some subtype := by
  have hliteral : multipartPrefix = 'm' :: ("ultipart".toList ++ ['/']) := by decide
  have hsemicolon : multipartPrefix.all (fun c => decide (c ≠ ';')) = true := by decide
  have hfront : ∀ c ∈ multipartPrefix ++ subtype, decide (c ≠ ';') = true := by
    intro c hc
    rcases List.mem_append.mp hc with hc | hc
    · exact List.all_eq_true.mp hsemicolon c hc
    · exact decide_eq_true (isPlainChar_cases (hsubtype.char hc)).2.2.2.2.1
  have htrim : trim (multipartPrefix ++ subtype) = multipartPrefix ++ subtype := by
    rw [hliteral, List.cons_append, List.append_assoc, List.singleton_append]
    exact trim_append_plain rfl rfl hsubtype
  have hlower : lower multipartPrefix = multipartPrefix := by decide
  have hmedia : mediaType (multipartField subtype boundary).value = multipartPrefix ++ subtype := by
    rw [mediaType, multipartField, takeWhile_append_stop hfront rfl, htrim, lower, List.map_append]
    exact congrArg₂ _ hlower (lower_plain hsubtype)
  have hprefix : multipartPrefix.isPrefixOf (multipartPrefix ++ subtype) = true :=
    List.isPrefixOf_iff_prefix.mpr (List.prefix_append _ _)
  have hdrop : (multipartPrefix ++ subtype).drop 10 = subtype := List.drop_left' (by decide)
  rw [multipartSubtype, hmedia, if_pos hprefix, hdrop]

include hsubtype hboundary in
lemma declaredBoundary_multipartField :
    declaredBoundary (multipartField subtype boundary).value = some boundary := by
  have hliteral : boundaryPrefix = ' ' :: 'b' :: "oundary=\"".toList := by decide
  have hname : ∀ c ∈ 'b' :: "oundary".toList, decide (c ≠ '=') = true :=
    List.all_eq_true.mp (by decide)
  have hassign : "oundary=\"".toList = "oundary".toList ++ ['=', '"'] := by decide
  have hfirst : multipartPrefix.all (fun c => c ≠ ';' ∧ c ≠ '"') = true := by decide
  have hsecond : boundaryPrefix.all (fun c => c ≠ ';' ∧ c ≠ '\\') = true := by decide
  have hfront : ∀ c ∈ multipartPrefix ++ subtype, c ≠ ';' ∧ c ≠ '"' := by
    intro c hc
    rcases List.mem_append.mp hc with hc | hc
    · exact of_decide_eq_true (List.all_eq_true.mp hfirst c hc)
    · have hplain := (isPlainChar_cases (hsubtype.char hc)).2.2.2
      exact ⟨hplain.2.1, hplain.2.2.1⟩
  have hback : ∀ c ∈ boundaryPrefix ++ (boundary ++ ['"']), c ≠ ';' ∧ c ≠ '\\' := by
    intro c hc
    rcases List.mem_append.mp hc with hc | hc
    · exact of_decide_eq_true (List.all_eq_true.mp hsecond c hc)
    · rcases List.mem_append.mp hc with hc | hc
      · have hplain := (isPlainChar_cases (hboundary.char hc)).2.2.2
        exact ⟨hplain.2.1, hplain.2.2.2⟩
      · rw [List.mem_singleton.mp hc]
        decide
  have htrim : trim (boundaryPrefix ++ (boundary ++ ['"'])) =
      ('b' :: "oundary".toList) ++ '=' :: '"' :: (boundary ++ ['"']) := by
    have hdrop (rest : Text) : (' ' :: 'b' :: rest).dropWhile isBlank = 'b' :: rest := rfl
    have hend := rdropWhile_isBlank (t := ('b' :: "oundary".toList) ++ '=' :: '"' :: boundary) (c := '"') rfl
    simp only [List.cons_append, List.append_assoc] at hend
    simp only [hliteral, hassign, trim, List.cons_append, List.append_assoc, List.nil_append, hdrop]
    exact hend
  have hlower : lower ('b' :: "oundary".toList) = "boundary".toList := by decide
  have hquoted : unquoted (boundary ++ ['"']) = boundary :=
    unquoted_append_quote fun c hc => (isPlainChar_cases (hboundary.char hc)).2.2.2.2.2
  rw [declaredBoundary, multipartField, pieces_append_semicolon hfront, pieces_eq_self hback]
  simp only [List.drop_succ_cons, List.drop_zero, List.findSome?_cons, parameter, htrim,
    takeWhile_append_stop hname (rfl : decide ('=' ≠ '=') = false),
    dropWhile_append_stop hname (rfl : decide ('=' ≠ '=') = false), hlower, if_true, hquoted]

end MultipartField

/-! ### Reading the parts back -/

namespace Entity

mutual

def boundaries : Entity → List Text
  | leaf _ _ => []
  | multi _ _ boundary parts => boundary :: boundariesAll parts

def boundariesAll : List Entity → List Text
  | [] => []
  | part :: parts => part.boundaries ++ boundariesAll parts

end

mutual

/-- Header fields fill their lines, no line of a body starts with a dash, and the boundary of a
multipart message is not one of its parts'. -/
def Sound : Entity → Prop
  | leaf fields body => (∀ f ∈ fields, f.Sound) ∧ ∀ l ∈ lines body, l.head? ≠ some '-'
  | multi fields subtype boundary parts =>
    (∀ f ∈ fields, f.Sound ∧ lower f.name ≠ lower contentTypeName) ∧ IsPlain subtype ∧ IsPlain boundary ∧
      boundary ∉ boundariesAll parts ∧ SoundAll parts

def SoundAll : List Entity → Prop
  | [] => True
  | part :: parts => part.Sound ∧ SoundAll parts

end

mutual

def depth : Entity → Nat
  | leaf _ _ => 1
  | multi _ _ _ parts => depthAll parts + 1

def depthAll : List Entity → Nat
  | [] => 0
  | part :: parts => max part.depth (depthAll parts)

end

mutual

/-- What a reader is to find in a message. A leaf that calls itself multipart cannot be read. -/
def content : Entity → Option Content
  | leaf fields body =>
    match multipartSubtype (lookup "content-type" fields) with
    | none => readLeaf fields (body.filter fun c => !isBreak c)
    | some _ => none
  | multi _ subtype _ parts => (contentAll parts).map (Content.multi subtype)

def contentAll : List Entity → Option (List Content)
  | [] => some []
  | part :: parts => do
    let first ← part.content
    let rest ← contentAll parts
    some (first :: rest)

end

end Entity

section Delimiters

variable {boundary : Text}

lemma hasBreak_delimiter (h : IsPlain boundary) : hasBreak (delimiter boundary) = false := by
  rw [delimiter, hasBreak_cons, hasBreak_cons, h.hasBreak]
  rfl

lemma hasBreak_closeDelimiter (h : IsPlain boundary) : hasBreak (closeDelimiter boundary) = false := by
  rw [closeDelimiter, hasBreak_append, hasBreak_delimiter h]
  rfl

lemma rdropWhile_delimiter (h : IsPlain boundary) :
    (delimiter boundary).rdropWhile isBlank = delimiter boundary :=
  rdropWhile_append_plain (t := ['-']) rfl h

lemma rdropWhile_closeDelimiter (boundary : Text) :
    (closeDelimiter boundary).rdropWhile isBlank = closeDelimiter boundary := by
  have hend := rdropWhile_isBlank (t := delimiter boundary ++ ['-']) (c := '-') rfl
  rwa [List.append_assoc] at hend

lemma delimiter_ne_close (h : IsPlain boundary) :
    delimiter boundary ≠ closeDelimiter other := by
  intro heq
  have hmem : '-' ∈ boundary := by
    have htail : boundary = other ++ ['-', '-'] := by
      simpa only [closeDelimiter, delimiter, List.cons_append, List.cons.injEq, true_and] using heq
    rw [htail]
    simp
  exact (isPlainChar_cases (h.char hmem)).2.2.2.1 rfl

/-- The line is no delimiter of a message with this boundary. -/
def Apart (boundary line : Text) : Prop :=
  isDelimiter boundary line = false ∧ isCloseDelimiter boundary line = false

lemma apart_of_head? {line : Text} (h : line.head? ≠ some '-') (boundary : Text) : Apart boundary line := by
  have hne (rest : Text) : line.rdropWhile isBlank ≠ '-' :: rest := by
    intro heq
    obtain ⟨tail, htail⟩ := heq ▸ List.rdropWhile_prefix isBlank line
    rw [← htail] at h
    exact h rfl
  exact ⟨decide_eq_false (hne _), decide_eq_false (hne _)⟩

lemma apart_delimiter (hother : IsPlain other) (hne : boundary ≠ other) :
    Apart boundary (delimiter other) := by
  refine ⟨decide_eq_false ?_, decide_eq_false ?_⟩
  · rw [rdropWhile_delimiter hother]
    intro heq
    exact hne (List.cons.inj (List.cons.inj heq).2).2.symm
  · rw [rdropWhile_delimiter hother]
    exact delimiter_ne_close hother

lemma apart_closeDelimiter (h : IsPlain boundary) (hne : boundary ≠ other) :
    Apart boundary (closeDelimiter other) := by
  refine ⟨decide_eq_false ?_, decide_eq_false ?_⟩
  · rw [rdropWhile_closeDelimiter]
    exact (delimiter_ne_close h).symm
  · rw [rdropWhile_closeDelimiter]
    intro heq
    have htail : delimiter other = delimiter boundary := List.append_cancel_right heq
    exact hne (List.cons.inj (List.cons.inj htail).2).2.symm

end Delimiters

lemma sections_append {boundary : Text} {ls : List Text} (h : ∀ l ∈ ls, Apart boundary l)
    (rest : List Text) :
    sections boundary (ls ++ rest) =
      (sections boundary rest).map fun (before, parts) => (ls ++ before, parts) := by
  induction ls with
  | nil => simp
  | cons l ls ih =>
    rw [List.forall_mem_cons] at h
    rw [List.cons_append, sections, h.1.2, ih h.2, Option.map_map]
    simp only [Bool.false_eq_true, if_false, h.1.1]
    rfl

namespace Entity

def partLines (boundary : Text) : List Entity → List Text
  | [] => [closeDelimiter boundary, []]
  | part :: parts => delimiter boundary :: (lines part.render ++ partLines boundary parts)

lemma sections_partLines {boundary : Text} (hb : IsPlain boundary)
    (h : ∀ part ∈ parts, ∀ l ∈ lines part.render, Apart boundary l) :
    sections boundary (partLines boundary parts) = some ([], parts.map fun part => lines part.render) := by
  induction parts with
  | nil =>
    have hclose : isCloseDelimiter boundary (closeDelimiter boundary) = true :=
      decide_eq_true (rdropWhile_closeDelimiter boundary)
    rw [partLines, sections, if_pos hclose]
    rfl
  | cons part parts ih =>
    rw [List.forall_mem_cons] at h
    have hopen : isDelimiter boundary (delimiter boundary) = true :=
      decide_eq_true (rdropWhile_delimiter hb)
    have hclose : isCloseDelimiter boundary (delimiter boundary) = false := by
      rw [isCloseDelimiter, rdropWhile_delimiter hb]
      exact decide_eq_false (delimiter_ne_close hb)
    rw [partLines, sections, hclose, sections_append h.1, ih h.2]
    simp [hopen]

lemma lines_header {fields : List HeaderField} (h : ∀ f ∈ fields, hasBreak f.line = false) (body : Text) :
    lines (headerBlock fields ++ (crlf ++ body)) = fields.map HeaderField.line ++ [] :: lines body := by
  rw [lines_headerBlock_append, flatMap_lines_eq_map.mpr h]
  exact congrArg _ (lines_append_crlf [] body)

lemma exists_body (e : Entity) : ∃ body, e.render = headerBlock e.header ++ (crlf ++ body) := by
  cases e with
  | leaf fields body => exact ⟨body, by rw [render, header]⟩
  | multi fields subtype boundary parts => exact ⟨renderParts boundary false parts, by rw [render, header]⟩

theorem readHeader_render (e : Entity) (hbreak : ∀ f ∈ e.header, hasBreak f.line = false)
    (hreadable : ∀ f ∈ e.header, f.Readable) : (readHeader (lines e.render)).1 = e.header := by
  obtain ⟨body, hbody⟩ := e.exists_body
  rw [hbody, lines_header hbreak, readHeader_append hreadable]

lemma lines_append_renderParts {boundary : Text} (hb : IsPlain boundary) (t : Text) (parts : List Entity) :
    lines (t ++ renderParts boundary true parts) = lines t ++ partLines boundary parts := by
  induction parts generalizing t with
  | nil =>
    have hclosing : closing boundary = crlf ++ (closeDelimiter boundary ++ (crlf ++ [])) := by
      simp only [closing, List.append_assoc, List.append_nil]
    rw [renderParts, hclosing, lines_append_crlf, lines_append_crlf,
      lines_of_hasBreak (hasBreak_closeDelimiter hb)]
    rfl
  | cons part parts ih =>
    have hopening (rest : Text) :
        opening true boundary ++ rest = crlf ++ (delimiter boundary ++ (crlf ++ rest)) := by
      simp only [opening, if_true, List.append_assoc]
    rw [renderParts, hopening, lines_append_crlf, lines_append_crlf,
      lines_of_hasBreak (hasBreak_delimiter hb), ih]
    rfl

lemma lines_renderParts {boundary : Text} (hb : IsPlain boundary) (parts : List Entity) :
    ∃ before, (∀ l ∈ before, l = []) ∧
      lines (renderParts boundary false parts) = before ++ partLines boundary parts := by
  cases parts with
  | nil => exact ⟨[[]], by simp, lines_append_renderParts hb [] []⟩
  | cons part parts =>
    refine ⟨[], by simp, ?_⟩
    have hopening (rest : Text) :
        opening false boundary ++ rest = delimiter boundary ++ (crlf ++ rest) := by
      simp only [opening, Bool.false_eq_true, if_false, List.nil_append, List.append_assoc]
    rw [renderParts, hopening, lines_append_crlf, lines_of_hasBreak (hasBreak_delimiter hb),
      lines_append_renderParts hb]
    rfl

/-- A line of a rendered message that starts with a dash is a delimiter of a message in it. -/
def Dashed (boundaries : List Text) (line : Text) : Prop :=
  line.head? = some '-' → ∃ b ∈ boundaries, IsPlain b ∧ (line = delimiter b ∨ line = closeDelimiter b)

lemma multipartField_sound {subtype boundary : Text} (hs : IsPlain subtype) (hb : IsPlain boundary) :
    (multipartField subtype boundary).Sound where
  hasBreak_line := by
    have hliterals : hasBreak contentTypeName = false ∧ hasBreak multipartPrefix = false ∧
        hasBreak boundaryPrefix = false := by decide
    simp only [HeaderField.line, multipartField, hasBreak_append, hasBreak_cons, hliterals, hs.hasBreak,
      hb.hasBreak]
    rfl
  colon := by
    have hcolon : ':' ∉ contentTypeName := by decide
    exact hcolon
  head := by
    have hname : contentTypeName = 'C' :: "ontent-Type".toList := by decide
    exact ⟨'C', "ontent-Type".toList, hname, by decide, by decide⟩

lemma header_sound {fields : List HeaderField} {subtype boundary : Text} (hs : IsPlain subtype)
    (hb : IsPlain boundary) (h : ∀ f ∈ fields, f.Sound ∧ lower f.name ≠ lower contentTypeName) :
    ∀ f ∈ fields ++ [multipartField subtype boundary], f.Sound := by
  intro f hf
  rcases List.mem_append.mp hf with hf | hf
  · exact (h f hf).1
  · rw [List.mem_singleton.mp hf]
    exact multipartField_sound hs hb

lemma dashed_header {fields : List HeaderField} (h : ∀ f ∈ fields, f.Sound) {boundaries : List Text}
    {body : List Text} (hbody : ∀ l ∈ body, Dashed boundaries l) :
    ∀ l ∈ fields.map HeaderField.line ++ [] :: body, Dashed boundaries l := by
  intro l hl hdash
  rcases List.mem_append.mp hl with hl | hl
  · obtain ⟨f, hf, rfl⟩ := List.mem_map.mp hl
    obtain ⟨c, hc, hne, -⟩ := (h f hf).head?_line
    rw [hc] at hdash
    exact absurd (Option.some.inj hdash) hne
  · rcases List.mem_cons.mp hl with rfl | hl
    · cases hdash
    · exact hbody l hl hdash

lemma Dashed.mono {boundaries more : List Text} {l : Text} (hsub : boundaries ⊆ more)
    (h : Dashed boundaries l) : Dashed more l := by
  intro hdash
  obtain ⟨b, hb, hl⟩ := h hdash
  exact ⟨b, hsub hb, hl⟩

mutual

theorem dashed_render : (e : Entity) → e.Sound → ∀ l ∈ lines e.render, Dashed e.boundaries l
  | leaf fields body, h => by
    rw [Sound] at h
    rw [render, lines_header fun f hf => (h.1 f hf).hasBreak_line]
    exact dashed_header h.1 fun l hl hdash => absurd hdash (h.2 l hl)
  | multi fields subtype boundary parts, h => by
    rw [Sound] at h
    obtain ⟨hfields, hs, hb, -, hparts⟩ := h
    have hheader := header_sound hs hb hfields
    obtain ⟨before, hbefore, hlines⟩ := lines_renderParts hb parts
    rw [render, lines_header fun f hf => (hheader f hf).hasBreak_line, hlines, boundaries]
    refine dashed_header hheader fun l hl => ?_
    rcases List.mem_append.mp hl with hl | hl
    · rw [hbefore l hl]
      intro hdash
      cases hdash
    · exact dashed_partLines parts hparts hb l hl

theorem dashed_partLines : (parts : List Entity) → SoundAll parts → {b : Text} → IsPlain b →
    ∀ l ∈ partLines b parts, Dashed (b :: boundariesAll parts) l
  | [], _, b, hb => by
    intro l hl hdash
    rw [partLines] at hl
    rcases List.mem_cons.mp hl with rfl | hl
    · exact ⟨b, List.mem_cons_self, hb, .inr rfl⟩
    · rw [List.mem_singleton.mp hl] at hdash
      cases hdash
  | part :: parts, h, b, hb => by
    rw [SoundAll] at h
    intro l hl
    rw [partLines] at hl
    rw [boundariesAll]
    rcases List.mem_cons.mp hl with rfl | hl
    · exact fun _ => ⟨b, List.mem_cons_self, hb, .inl rfl⟩
    · rcases List.mem_append.mp hl with hl | hl
      · apply (dashed_render part h.1 l hl).mono
        exact fun c hc => List.mem_cons_of_mem _ (List.mem_append_left _ hc)
      · apply (dashed_partLines parts h.2 hb l hl).mono
        exact List.cons_subset_cons _ (List.subset_append_right _ _)

end

lemma Dashed.apart {boundaries : List Text} {boundary l : Text} (h : Dashed boundaries l)
    (hb : IsPlain boundary) (hnot : boundary ∉ boundaries) : Apart boundary l := by
  by_cases hdash : l.head? = some '-'
  · obtain ⟨b, hmem, hplain, hl⟩ := h hdash
    have hne : boundary ≠ b := fun heq => hnot (heq ▸ hmem)
    rcases hl with rfl | rfl
    · exact apart_delimiter hplain hne
    · exact apart_closeDelimiter hb hne
  · exact apart_of_head? hdash boundary

lemma soundAll_iff : SoundAll parts ↔ ∀ part ∈ parts, part.Sound := by
  induction parts with
  | nil => simp [SoundAll]
  | cons part parts ih => rw [SoundAll, List.forall_mem_cons, ih]

lemma mem_boundariesAll {boundary : Text} :
    boundary ∈ boundariesAll parts ↔ ∃ part ∈ parts, boundary ∈ part.boundaries := by
  induction parts with
  | nil => simp [boundariesAll]
  | cons part parts ih => simp [boundariesAll, ih]

lemma not_mem_boundariesAll (h : ∀ part ∈ parts, part.boundaries = [])
    (boundary : Text) : boundary ∉ boundariesAll parts := by
  rw [mem_boundariesAll]
  rintro ⟨part, hpart, hmem⟩
  rw [h part hpart] at hmem
  cases hmem

lemma mem_boundariesAll_cons {α : Type} {first : Entity} {entity : α → Entity}
    (h : ∀ a, (entity a).boundaries = []) {as : List α} {boundary : Text}
    (hmem : boundary ∈ boundariesAll (first :: as.map entity)) : boundary ∈ first.boundaries := by
  rw [boundariesAll] at hmem
  rcases List.mem_append.mp hmem with hmem | hmem
  · exact hmem
  · refine absurd hmem (not_mem_boundariesAll (fun part hpart => ?_) _)
    obtain ⟨a, -, rfl⟩ := List.mem_map.mp hpart
    exact h a

lemma depthAll_le_iff {n : Nat} :
    depthAll parts ≤ n ↔ ∀ part ∈ parts, part.depth ≤ n := by
  induction parts with
  | nil => simp [depthAll]
  | cons part parts ih => rw [depthAll, Nat.max_le, List.forall_mem_cons, ih]

lemma depth_multi_le {fields : List HeaderField} {subtype boundary : Text} {n : Nat}
    (h : ∀ part ∈ parts, part.depth ≤ n) : (multi fields subtype boundary parts).depth ≤ n + 1 := by
  rw [depth]
  exact Nat.succ_le_succ (depthAll_le_iff.mpr h)

lemma lookup_contentType {fields : List HeaderField} {subtype boundary : Text}
    (h : ∀ f ∈ fields, f.Sound ∧ lower f.name ≠ lower contentTypeName) :
    lookup "content-type" (fields ++ [multipartField subtype boundary]) =
      (multipartField subtype boundary).value := by
  have hname : lower contentTypeName = "content-type".toList := by decide
  have hother : ∀ f ∈ fields, lower f.name ≠ "content-type".toList := by
    intro f hf
    rw [← hname]
    exact (h f hf).2
  have hfound : lower (multipartField subtype boundary).name = "content-type".toList := hname
  rw [lookup_append hother, lookup_cons, if_pos hfound]

mutual

theorem readLines_render : (e : Entity) → e.Sound → (n : Nat) → e.depth ≤ n →
    readLines n (lines e.render) = e.content
  | leaf fields body, h, n, hn => by
    rw [depth] at hn
    obtain ⟨n, rfl⟩ := Nat.exists_eq_succ_of_ne_zero (Nat.one_le_iff_ne_zero.mp hn)
    rw [Sound] at h
    rw [render, lines_header fun f hf => (h.1 f hf).hasBreak_line, content, readLines,
      readHeader_append fun f hf => (h.1 f hf).readable]
    dsimp only
    cases multipartSubtype (lookup "content-type" fields) with
    | none =>
      dsimp only
      rw [flatten_lines]
    | some subtype =>
      -- the body has no line that could be a delimiter
      have hnone (b : Text) : sections b (lines body) = none := by
        have hsections := sections_append (fun l hl => apart_of_head? (h.2 l hl) b) []
        rwa [List.append_nil] at hsections
      cases declaredBoundary (lookup "content-type" fields) with
      | none => rfl
      | some b =>
        dsimp only [Option.bind_eq_bind, Option.bind_some]
        rw [hnone]
        rfl
  | multi fields subtype boundary parts, h, n, hn => by
    rw [depth] at hn
    obtain ⟨n, rfl⟩ := Nat.exists_eq_succ_of_ne_zero (Nat.one_le_iff_ne_zero.mp (Nat.le_of_add_left_le hn))
    rw [Sound] at h
    obtain ⟨hfields, hs, hb, hnot, hparts⟩ := h
    have hheader := header_sound hs hb hfields
    have hapart : ∀ part ∈ parts, ∀ l ∈ lines part.render, Apart boundary l := by
      intro part hpart l hl
      refine (dashed_render part (soundAll_iff.mp hparts part hpart) l hl).apart hb fun hmem => hnot ?_
      exact mem_boundariesAll.mpr ⟨part, hpart, hmem⟩
    obtain ⟨before, hbefore, hlines⟩ := lines_renderParts hb parts
    have hsections : sections boundary (before ++ partLines boundary parts) =
        some (before, parts.map fun part => lines part.render) := by
      rw [sections_append, sections_partLines hb hapart]
      · simp
      · intro l hl
        rw [hbefore l hl]
        exact apart_of_head? (by simp) boundary
    have hrec := mapM_readLines parts hparts n (Nat.le_of_succ_le_succ hn)
    rw [render, lines_header fun f hf => (hheader f hf).hasBreak_line, hlines, content, readLines,
      readHeader_append fun f hf => (hheader f hf).readable]
    dsimp only
    rw [lookup_contentType hfields, multipartSubtype_multipartField hs,
      declaredBoundary_multipartField hs hb]
    dsimp only [Option.bind_eq_bind, Option.bind_some]
    rw [hsections]
    dsimp only [Option.bind_some]
    rw [hrec]
    cases contentAll parts <;> rfl

theorem mapM_readLines : (parts : List Entity) → SoundAll parts → (n : Nat) → depthAll parts ≤ n →
    (parts.map fun part => lines part.render).mapM (readLines n) = contentAll parts
  | [], _, _, _ => rfl
  | part :: parts, h, n, hn => by
    rw [SoundAll] at h
    rw [depthAll] at hn
    have hfirst := readLines_render part h.1 n ((Nat.le_max_left _ _).trans hn)
    have hrest := mapM_readLines parts h.2 n ((Nat.le_max_right _ _).trans hn)
    rw [List.map_cons, List.mapM_cons, hfirst, hrest, contentAll]
    rfl

end

end Entity

theorem parse_render {e : Entity} (h : e.Sound) {depth : Nat} (hdepth : e.depth ≤ depth) :
    parse depth e.render = e.content :=
  e.readLines_render h depth hdepth

end MailBaby.Lib.Mime
