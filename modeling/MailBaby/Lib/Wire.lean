import MailBaby.Lib.MimeRoundTrip

/-!
# Line lengths on the wire

On the wire a line ends at CR LF only, and its length is counted in octets.
-/

namespace MailBaby.Lib.Mime

variable {n : Nat} {s t : Text}

/-- The lines between CR LF pairs. -/
def wireLines : Text → List Text
  | [] => [[]]
  | '\r' :: '\n' :: rest => [] :: wireLines rest
  | c :: rest => consHead c (wireLines rest)

lemma wireLines_cons {c : Char} {rest : Text} (h : c = '\r' → rest.head? ≠ some '\n') :
    wireLines (c :: rest) = consHead c (wireLines rest) := by
  rw [wireLines.eq_3]
  rintro tail rfl rfl
  exact h rfl rfl

lemma wireLines_ne_nil (t : Text) : wireLines t ≠ [] := by
  fun_cases wireLines t with
  | case1 => exact List.cons_ne_nil _ _
  | case2 rest => exact List.cons_ne_nil _ _
  | case3 c rest => cases wireLines rest <;> exact List.cons_ne_nil _ _

lemma wireLines_append_crlf (s t : Text) : wireLines (s ++ (crlf ++ t)) = wireLines s ++ wireLines t := by
  fun_induction wireLines s with
  | case1 => rfl
  | case2 rest ih => exact congrArg ([] :: ·) ih
  | case3 c rest hpair ih =>
    have hhead : c = '\r' → (rest ++ (crlf ++ t)).head? ≠ some '\n' := by
      rintro rfl hhead
      cases rest with
      | nil => cases hhead
      | cons d rest =>
        cases hhead
        exact hpair rest rfl rfl
    rw [List.cons_append, wireLines_cons hhead, ih, consHead_append (wireLines_ne_nil rest)]

lemma wireLines_of_hasBreak (h : hasBreak t = false) : wireLines t = [t] := by
  induction t with
  | nil => rfl
  | cons c t ih =>
    rw [hasBreak_cons, Bool.or_eq_false_iff] at h
    have hhead : c = '\r' → t.head? ≠ some '\n' := by
      rintro rfl
      cases h.1
    rw [wireLines_cons hhead, ih h.2]
    rfl

/-! ### Octets -/

def octets (t : Text) : Nat := (utf8 t).length

lemma octets_append (s t : Text) : octets (s ++ t) = octets s + octets t := by
  rw [octets, utf8, List.flatMap_append, List.length_append]
  rfl

lemma octets_cons (c : Char) (t : Text) : octets (c :: t) = octets [c] + octets t := octets_append [c] t

lemma octets_of_ascii (h : ∀ c ∈ t, c.toNat < 128) : octets t = t.length := by
  induction t with
  | nil => rfl
  | cons c t ih =>
    rw [List.forall_mem_cons] at h
    have hone : octets [c] = 1 := by
      have hall : ∀ k : Fin 128, octets [Char.ofNat k.val] = 1 := by decide +kernel
      have hc := hall ⟨c.toNat, h.1⟩
      rwa [Char.ofNat_toNat] at hc
    rw [octets_cons, hone, ih h.2, List.length_cons, Nat.add_comm]

/-! ### Texts that fit -/

def Fits (n : Nat) (t : Text) : Prop := ∀ l ∈ wireLines t, octets l ≤ n

lemma fits_nil : Fits n [] := by
  intro l hl
  rw [List.mem_singleton.mp hl]
  exact Nat.zero_le n

lemma fits_append_crlf : Fits n (s ++ (crlf ++ t)) ↔ Fits n s ∧ Fits n t := by
  rw [Fits, wireLines_append_crlf, List.forall_mem_append]
  rfl

lemma fits_crlf_append : Fits n (crlf ++ t) ↔ Fits n t := by
  have h : Fits n ([] ++ (crlf ++ t)) ↔ Fits n [] ∧ Fits n t := fits_append_crlf
  rw [List.nil_append] at h
  rw [h]
  exact and_iff_right fits_nil

lemma fits_of_hasBreak (h : hasBreak t = false) : Fits n t ↔ octets t ≤ n := by
  rw [Fits, wireLines_of_hasBreak h, List.forall_mem_singleton]

lemma wireLines_flatMap {α : Type} (line : α → Text) (xs : List α) (t : Text) :
    wireLines ((xs.flatMap fun x => line x ++ crlf) ++ t) = (xs.flatMap fun x => wireLines (line x)) ++ wireLines t := by
  induction xs with
  | nil => rfl
  | cons x xs ih => rw [List.flatMap_cons, List.append_assoc, List.append_assoc, wireLines_append_crlf, ih,
      List.flatMap_cons, List.append_assoc]

lemma fits_flatMap {α : Type} {line : α → Text} {xs : List α} :
    Fits n ((xs.flatMap fun x => line x ++ crlf) ++ t) ↔ (∀ x ∈ xs, Fits n (line x)) ∧ Fits n t := by
  simp only [Fits, wireLines_flatMap, List.forall_mem_append, List.forall_mem_flatMap]

/-! ### Messages that fit -/

lemma hasBreak_multipartField {subtype boundary : Text} (hs : IsPlain subtype) (hb : IsPlain boundary) :
    hasBreak (multipartField subtype boundary).line = false := (Entity.multipartField_sound hs hb).hasBreak_line

lemma octets_closeDelimiter_le (subtype boundary : Text) :
    octets (closeDelimiter boundary) ≤ octets (multipartField subtype boundary).line := by
  have hclose : octets (closeDelimiter boundary) = octets boundary + 4 := by
    have hparts : closeDelimiter boundary = ['-', '-'] ++ (boundary ++ ['-', '-']) := rfl
    have hdashes : octets ['-', '-'] = 2 := rfl
    rw [hparts, octets_append, octets_append, hdashes]
    omega
  have hfield : (multipartField subtype boundary).line =
      (contentTypeName ++ ':' :: ' ' :: (multipartPrefix ++ subtype)) ++
        (';' :: boundaryPrefix ++ (boundary ++ ['"'])) := by
    simp [HeaderField.line, multipartField]
  have hprefix : octets (';' :: boundaryPrefix) = 12 := by decide
  rw [hclose, hfield, octets_append, octets_append (';' :: boundaryPrefix), octets_append boundary, hprefix]
  omega

namespace Entity

mutual

def Wrapped (n : Nat) : Entity → Prop
  | leaf _ body => Fits n body
  | multi _ subtype boundary parts => IsPlain subtype ∧ IsPlain boundary ∧ WrappedAll n parts

def WrappedAll (n : Nat) : List Entity → Prop
  | [] => True
  | part :: parts => part.Wrapped n ∧ WrappedAll n parts

end

lemma wrappedAll_iff {parts : List Entity} : WrappedAll n parts ↔ ∀ part ∈ parts, part.Wrapped n := by
  induction parts with
  | nil => simp [WrappedAll]
  | cons part parts ih => rw [WrappedAll, List.forall_mem_cons, ih]

def FieldsFit (n : Nat) (e : Entity) : Prop := ∀ block ∈ e.blocks, ∀ f ∈ block, Fits n f.line

def FieldsFitAll (n : Nat) (parts : List Entity) : Prop := ∀ block ∈ blocksAll parts, ∀ f ∈ block, Fits n f.line

lemma fieldsFitAll_cons {part : Entity} {parts : List Entity} :
    FieldsFitAll n (part :: parts) ↔ part.FieldsFit n ∧ FieldsFitAll n parts := by
  rw [FieldsFitAll, blocksAll, List.forall_mem_append]
  rfl

lemma octets_delimiter_le (boundary : Text) : octets (delimiter boundary) ≤ octets (closeDelimiter boundary) := by
  rw [closeDelimiter, octets_append]
  exact Nat.le_add_right _ _

mutual

theorem fits_render : (e : Entity) → e.Wrapped n → (Fits n e.render ↔ e.FieldsFit n)
  | leaf fields body, h => by
    rw [Wrapped] at h
    rw [render, headerBlock, fits_flatMap, fits_crlf_append, FieldsFit, blocks, List.forall_mem_singleton]
    exact and_iff_left h
  | multi fields subtype boundary parts, h => by
    rw [Wrapped] at h
    obtain ⟨hs, hb, hparts⟩ := h
    rw [render, headerBlock, fits_flatMap, fits_crlf_append, FieldsFit, blocks, List.forall_mem_cons]
    apply and_congr_right
    intro hfields
    change _ ↔ FieldsFitAll n parts
    -- the field with the boundary fits, so the delimiters do
    have hfield := hfields _ (List.mem_append_right _ (List.mem_singleton_self _))
    rw [fits_of_hasBreak (hasBreak_multipartField hs hb)] at hfield
    have hclose := (octets_closeDelimiter_le subtype boundary).trans hfield
    have hdelimiter := (octets_delimiter_le boundary).trans hclose
    cases parts with
    | nil =>
      have hempty := fits_append_renderParts [] hparts hb hclose []
      exact hempty.trans (and_iff_right fits_nil)
    | cons part parts =>
      have hopening : opening false boundary ++ (part.render ++ renderParts boundary true parts) =
          delimiter boundary ++ (crlf ++ (part.render ++ renderParts boundary true parts)) := by
        simp only [opening, Bool.false_eq_true, if_false, List.nil_append, List.append_assoc]
      rw [WrappedAll] at hparts
      rw [renderParts, hopening, fits_append_crlf, fits_of_hasBreak (hasBreak_delimiter hb),
        fits_append_renderParts parts hparts.2 hb hclose, fits_render part hparts.1, and_iff_right hdelimiter,
        fieldsFitAll_cons]

theorem fits_append_renderParts : (parts : List Entity) → WrappedAll n parts → {b : Text} → IsPlain b →
    octets (closeDelimiter b) ≤ n → (t : Text) →
    (Fits n (t ++ renderParts b true parts) ↔ Fits n t ∧ FieldsFitAll n parts)
  | [], _, b, hb, hclose, t => by
    have hclosing : closing b = crlf ++ (closeDelimiter b ++ (crlf ++ [])) := by
      simp only [closing, List.append_assoc, List.append_nil]
    rw [renderParts, hclosing, fits_append_crlf, fits_append_crlf, fits_of_hasBreak (hasBreak_closeDelimiter hb)]
    apply and_congr_right
    intro _
    exact iff_of_true ⟨hclose, fits_nil⟩ (List.forall_mem_nil _)
  | part :: parts, h, b, hb, hclose, t => by
    rw [WrappedAll] at h
    have hopening (rest : Text) : opening true b ++ rest = crlf ++ (delimiter b ++ (crlf ++ rest)) := by
      simp only [opening, if_true, List.append_assoc]
    rw [renderParts, hopening, fits_append_crlf, fits_append_crlf, fits_of_hasBreak (hasBreak_delimiter hb),
      fits_append_renderParts parts h.2 hb hclose, fits_render part h.1, fieldsFitAll_cons]
    apply and_congr_right
    intro _
    exact and_iff_right ((octets_delimiter_le b).trans hclose)

end

end Entity

end MailBaby.Lib.Mime
