import MailBaby.Lib.Wire
import MailBaby.Proofs.MimeRoundTrip
import MailBaby.Sender.Account

/-!
# The line limit of a message

RFC 5322 allows 998 octets a line. The content of every part is wrapped at 76 characters, and header fields are
not wrapped at all, so a message keeps to the limit exactly if its header fields do.
-/

namespace MailBaby

open Lib Lib.Mime

def maxLineOctets : Nat := 998

/-! ### Base64 content -/

lemma ascii_of_mem_encode {data : Bytes} {c : Char} (h : c ∈ Base64.encode data) : c.toNat < 128 := by
  rcases Base64.mem_encode h with rfl | ⟨n, rfl⟩
  · decide
  · exact Base64.digit_induction (P := fun c => c.toNat < 128) (by decide) n

lemma hasBreak_of_subset_encode {data : Bytes} {piece : Text} (h : piece ⊆ Base64.encode data) :
    hasBreak piece = false := by
  rw [hasBreak, List.any_eq_false]
  intro c hc
  rw [(isBreak_of_mem_encode (h hc)).1]
  exact Bool.false_ne_true

lemma fits_of_subset_encode {data : Bytes} {piece : Text} (h : piece ⊆ Base64.encode data)
    (hlength : piece.length ≤ lineLen) : Fits lineLen piece := by
  rw [fits_of_hasBreak (hasBreak_of_subset_encode h), octets_of_ascii fun c hc => ascii_of_mem_encode (h hc)]
  exact hlength

lemma fits_wrapBase64 (data : Bytes) : Fits lineLen (wrapBase64 data ++ crlf) := by
  obtain ⟨k, -, -, hwrap⟩ := wrapBase64_eq data
  have hchunk (i : Nat) : Fits lineLen (chunk (Base64.encode data) i) :=
    fits_of_subset_encode (chunk_subset _ i) (List.length_take_le _ _)
  rw [hwrap, List.append_assoc, fits_flatMap, ← List.append_nil (_ ++ crlf), List.append_assoc, fits_append_crlf]
  exact ⟨fun i _ => hchunk i, hchunk k, fits_nil⟩

lemma wrapped_encodedEntity (header : PartHeader) (data : Bytes) :
    (encodedEntity header data).Wrapped maxLineOctets := by
  rw [encodedEntity, Entity.Wrapped]
  intro l hl
  exact (fits_wrapBase64 data l hl).trans (by decide)

/-! ### The message -/

section Document

variable (env : MIMEEnv) (email : Email)

lemma wrapped_alternativeParts : Entity.WrappedAll maxLineOctets (alternativeParts email) := by
  rw [Entity.wrappedAll_iff, alternativeParts, List.forall_mem_map]
  intro body _
  exact wrapped_encodedEntity _ _

lemma wrapped_alternative (fields : List HeaderField) :
    (Entity.multi fields alternativeName env.alternative (alternativeParts email)).Wrapped maxLineOctets := by
  rw [Entity.Wrapped]
  exact ⟨isPlain_subtypes.2.2, isPlain_of_isHex env.isHex_alternative, wrapped_alternativeParts email⟩

lemma wrapped_alternativeOrSingle : (alternativeOrSingle env email).Wrapped maxLineOctets := by
  unfold alternativeOrSingle
  split_ifs
  · exact wrapped_alternative env email []
  · exact wrapped_encodedEntity _ _
  · exact wrapped_encodedEntity _ _

lemma wrappedAll_cons_map {first : Entity} (hfirst : first.Wrapped maxLineOctets) (header : Attachment → PartHeader)
    (atts : List Attachment) :
    Entity.WrappedAll maxLineOctets (first :: atts.map fun att => encodedEntity (header att) att.data) := by
  rw [Entity.wrappedAll_iff, List.forall_mem_cons, List.forall_mem_map]
  exact ⟨hfirst, fun att _ => wrapped_encodedEntity _ _⟩

lemma wrapped_relatedEntity (fields : List HeaderField) (inline : List Attachment) :
    (relatedEntity env email fields inline).Wrapped maxLineOctets := by
  rw [relatedEntity, Entity.Wrapped]
  exact ⟨isPlain_subtypes.2.1, isPlain_of_isHex env.isHex_related,
    wrappedAll_cons_map (wrapped_alternativeOrSingle env email) inlineHeader inline⟩

lemma wrapped_singleEntity (fields : List HeaderField) (contentType : Text) (body : String) :
    (singleEntity fields contentType body).Wrapped maxLineOctets := by
  have h := wrapped_encodedEntity (bodyPartHeader contentType) (utf8 body.toList)
  rw [encodedEntity, Entity.Wrapped] at h
  rw [singleEntity, Entity.Wrapped]
  exact h

lemma wrapped_messageEntity (fields : List HeaderField) (regular inline : List Attachment) :
    (messageEntity env email fields regular inline).Wrapped maxLineOctets := by
  unfold messageEntity
  split_ifs
  · rw [Entity.Wrapped]
    exact ⟨isPlain_subtypes.1, isPlain_of_isHex env.isHex_mixed,
      wrappedAll_cons_map (wrapped_relatedEntity env email [] inline) attachmentHeader regular⟩
  · rw [Entity.Wrapped]
    exact ⟨isPlain_subtypes.1, isPlain_of_isHex env.isHex_mixed,
      wrappedAll_cons_map (wrapped_alternativeOrSingle env email) attachmentHeader regular⟩
  · exact wrapped_relatedEntity env email fields inline
  · exact wrapped_alternative env email fields
  · exact wrapped_singleEntity fields _ _
  · exact wrapped_singleEntity fields _ _

lemma fits_document (defaultFrom defaultFromName : String) :
    Fits maxLineOctets (document env email defaultFrom defaultFromName).render ↔
      (document env email defaultFrom defaultFromName).FieldsFit maxLineOctets :=
  Entity.fits_render _ (wrapped_messageEntity env email _ _ _)

end Document

lemma headerValue_of_plain {t : Text} (h : ∀ c ∈ t, 32 ≤ c.toNat ∧ c.toNat ≤ 127) :
    sanitizeHeaderValue (encodeHeader t) = t ∧ hasBreak t = false := by
  have hkeep : encodeHeader t = t := by
    rw [encodeHeader, if_pos]
    rw [List.all_eq_true]
    intro c hc
    have hrange := h c hc
    have hhigh : ¬127 < c.toNat := by omega
    have hlow : ¬c.toNat < 32 := by omega
    simp [hhigh, hlow]
  have hbreak : hasBreak t = false := by
    rw [hasBreak, List.any_eq_false]
    intro c hc hc'
    have hrange := h c hc
    rcases Bool.or_eq_true_iff.mp hc' with hcr | hlf
    · rw [of_decide_eq_true hcr] at hrange
      exact absurd hrange (by decide)
    · rw [of_decide_eq_true hlf] at hrange
      exact absurd hrange (by decide)
  rw [hkeep, sanitizeHeaderValue, hbreak]
  exact ⟨rfl, rfl⟩

lemma exists_block (env : MIMEEnv) (email : Email) (fields : List HeaderField) (regular inline : List Attachment) :
    ∃ block ∈ (messageEntity env email fields regular inline).blocks, fields ⊆ block := by
  unfold messageEntity
  split_ifs
  · exact ⟨_, List.mem_cons_self, List.subset_append_left _ _⟩
  · exact ⟨_, List.mem_cons_self, List.subset_append_left _ _⟩
  · exact ⟨_, List.mem_cons_self, List.subset_append_left _ _⟩
  · exact ⟨_, List.mem_cons_self, List.subset_append_left _ _⟩
  · exact ⟨_, List.mem_singleton_self _, List.subset_append_left _ _⟩
  · exact ⟨_, List.mem_singleton_self _, List.subset_append_left _ _⟩

lemma length_subject_le {env : MIMEEnv} {email : Email} {defaultFrom defaultFromName : String} {n : Nat}
    (hplain : ∀ c ∈ email.subject.toList, 32 ≤ c.toNat ∧ c.toNat ≤ 127)
    (h : (document env email defaultFrom defaultFromName).FieldsFit n) : 9 + email.subject.toList.length ≤ n := by
  obtain ⟨hvalue, hbreak⟩ := headerValue_of_plain hplain
  have hmem : (⟨"Subject".toList, email.subject.toList⟩ : HeaderField) ∈
      headerFields env email defaultFrom defaultFromName := by
    have hfield : (⟨"Subject".toList, sanitizeHeaderValue (encodeHeader email.subject.toList)⟩ : HeaderField) ∈
        headerFields env email defaultFrom defaultFromName := by
      apply List.mem_append_left
      unfold standardFields
      apply List.mem_append_left
      apply List.mem_append_left
      apply List.mem_append_right
      exact List.mem_cons_of_mem _ (List.mem_singleton_self _)
    rwa [hvalue] at hfield
  obtain ⟨block, hblock, hsub⟩ := exists_block env email (headerFields env email defaultFrom defaultFromName)
    email.regularAttachments email.inlineAttachments
  have hfits := h block hblock _ (hsub hmem)
  have hline : HeaderField.line ⟨"Subject".toList, email.subject.toList⟩ =
      "Subject: ".toList ++ email.subject.toList := by
    rw [HeaderField.line]
    rfl
  have hname : hasBreak "Subject: ".toList = false ∧ octets "Subject: ".toList = 9 := by decide
  rw [hline, fits_of_hasBreak (by rw [hasBreak_append, hname.1, hbreak]; rfl), octets_append, hname.2,
    octets_of_ascii fun c hc => Nat.lt_succ_of_le (hplain c hc).2] at hfits
  exact hfits

end MailBaby

namespace MailBaby.Proofs

open Lib Lib.Mime

/-- The lines of the content have 76 characters each, but for the last one, and together they are its standard
encoding. -/
theorem wrapBase64_lossless (data : Bytes) :
    (∃ full last, wireLines (wrapBase64 data) = full ++ [last] ∧ (∀ l ∈ full, l.length = 76) ∧ last.length ≤ 76 ∧
        (data ≠ [] → 1 ≤ last.length) ∧ (data = [] → full = [] ∧ last = [])) ∧
      (∀ c, (wrapBase64 data).head? = some c ∨ (wrapBase64 data).getLast? = some c → c ≠ '\r' ∧ c ≠ '\n') ∧
      (wireLines (wrapBase64 data)).flatten = Base64.encode data := by
  obtain ⟨k, hlong, hlength, hwrap⟩ := wrapBase64_eq data
  have hlines : wireLines (wrapBase64 data) =
      (List.range k).map (chunk (Base64.encode data)) ++ [chunk (Base64.encode data) k] := by
    have hline (i : Nat) : wireLines (chunk (Base64.encode data) i) = [chunk (Base64.encode data) i] :=
      wireLines_of_hasBreak (hasBreak_of_subset_encode (chunk_subset _ i))
    rw [hwrap, wireLines_flatMap, hline, List.map_eq_flatMap]
    simp only [hline]
  have hchunk (i : Nat) : (chunk (Base64.encode data) i).length = min 76 ((Base64.encode data).length - i * 76) := by
    rw [chunk, List.length_take, List.length_drop, lineLen]
  refine ⟨⟨_, _, hlines, ?_, ?_, ?_, ?_⟩, ?_, ?_⟩
  · intro l hl
    obtain ⟨i, hi, rfl⟩ := List.mem_map.mp hl
    rw [List.mem_range] at hi
    rw [hchunk]
    unfold lineLen at hlong
    omega
  · rw [hchunk]
    omega
  · intro hne
    have hpos := List.length_pos_of_ne_nil (Base64.encode_ne_nil hne)
    rw [hchunk]
    unfold lineLen at hlong
    omega
  · rintro rfl
    obtain rfl : k = 0 := hlong.resolve_right (Nat.not_lt_zero _)
    exact ⟨rfl, rfl⟩
  · rintro c hc
    by_cases hdata : data = []
    · subst hdata
      rcases hc with hc | hc <;> cases hc
    · have hpos := List.length_pos_of_ne_nil (Base64.encode_ne_nil hdata)
      have hne (i : Nat) (hi : i ≤ k) : chunk (Base64.encode data) i ≠ [] := by
        apply List.ne_nil_of_length_pos
        rw [hchunk]
        unfold lineLen at hlong
        omega
      obtain ⟨i, hmem⟩ : ∃ i, c ∈ chunk (Base64.encode data) i := by
        rw [hwrap] at hc
        rcases hc with hhead | hlast
        · cases k with
          | zero => exact ⟨0, List.mem_of_head? hhead⟩
          | succ k =>
            rw [List.range_succ_eq_map, List.flatMap_cons, List.append_assoc, List.append_assoc,
              List.head?_append_of_ne_nil _ (hne 0 (Nat.zero_le _))] at hhead
            exact ⟨0, List.mem_of_head? hhead⟩
        · rw [List.getLast?_append_of_ne_nil _ (hne k (Nat.le_refl k))] at hlast
          exact ⟨k, List.mem_of_getLast? hlast⟩
      have hplain := (isBreak_of_mem_encode (chunk_subset _ i hmem)).1
      constructor
      · rintro rfl
        cases hplain
      · rintro rfl
        cases hplain
  · have hflat : ((List.range k).map (chunk (Base64.encode data)) ++ [chunk (Base64.encode data) k]).flatten =
        (List.range (k + 1)).flatMap (chunk (Base64.encode data)) := by
      rw [List.range_succ, List.flatMap_append, List.flatMap_singleton, List.flatten_append, List.flatten_singleton,
        ← List.flatMap_def]
    rw [hlines, hflat, flatMap_chunk, List.take_of_length_le hlength]

/-- A message keeps to the line limit exactly if all its header fields, and those of its parts, do. -/
theorem line_limit_iff (env : MIMEEnv) {email : Email} {defaultFrom defaultFromName : String} {message : Text}
    (h : buildMIME env email defaultFrom defaultFromName = .ok message) :
    (∀ l ∈ wireLines message, octets l ≤ maxLineOctets) ↔
      ∀ block ∈ (document env email defaultFrom defaultFromName).blocks, ∀ f ∈ block, ∀ l ∈ wireLines f.line,
        octets l ≤ maxLineOctets := by
  rw [(buildMIME_eq env email h).1]
  exact fits_document env email defaultFrom defaultFromName

theorem line_limit_iff_short :
    ∃ message, buildMIME mimeEnv (attachingMail "text/plain") "d@e.f" "" = .ok message ∧
      ∀ l ∈ wireLines message, octets l ≤ maxLineOctets := by
  have hnil : none ∉ (attachingMail "text/plain").attachments := by simp [attachingMail]
  have hbuild := buildMIME_of_plain mimeEnv rfl hnil "d@e.f" ""
  have hfields : ((document mimeEnv (attachingMail "text/plain") "d@e.f" "").blocks.all fun block =>
      block.all fun f => (wireLines f.line).all fun l => octets l ≤ maxLineOctets) = true := by
    decide +kernel
  refine ⟨_, hbuild, (line_limit_iff mimeEnv hbuild).mpr ?_⟩
  simpa only [List.all_eq_true, decide_eq_true_eq] using hfields

def longSubject : Email := { toAddrs := ["a@b.c"], subject := String.ofList (List.replicate 1000 'a') }

/-- A subject of a thousand characters is put on one line. -/
theorem line_limit_exceeded :
    longSubject.validate (Codec.standard (fun _ => ⟨""⟩) readAddress) = none ∧
      (Sender.allRecipients (Codec.standard (fun _ => ⟨""⟩) readAddress) longSubject).length ≤ 50 ∧
      ∃ message, buildMIME mimeEnv longSubject "d@e.f" "" = .ok message ∧
        ∃ l ∈ wireLines message, maxLineOctets < octets l := by
  refine ⟨by decide +kernel, by decide +kernel, _,
    buildMIME_of_plain mimeEnv rfl List.not_mem_nil "d@e.f" "", ?_⟩
  by_contra hshort
  push Not at hshort
  have hsubject : longSubject.subject.toList = List.replicate 1000 'a' := String.toList_ofList
  have hplain : ∀ c ∈ longSubject.subject.toList, 32 ≤ c.toNat ∧ c.toNat ≤ 127 := by
    rw [hsubject]
    intro c hc
    rw [List.eq_of_mem_replicate hc]
    decide
  have hlength := length_subject_le hplain ((fits_document mimeEnv longSubject "d@e.f" "").mp hshort)
  rw [hsubject, List.length_replicate] at hlength
  exact absurd hlength (by decide)

end MailBaby.Proofs
