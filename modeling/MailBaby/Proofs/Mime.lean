import MailBaby.Lib.MimeRoundTrip
import MailBaby.Sender.Mime

/-!
# The messages that are built

`document` is the message that an email stands for, as a tree of parts. `BuildMIME` writes it out, and
the text has the intended header fields only if no attachment brings a line break of its own.
-/

namespace MailBaby

open Lib Lib.Mime

/-! ### Quoted text -/

lemma escapeRune_of_le {c : Char} (h : 128 ≤ c.toNat) : escapeRune c = [c] := by
  unfold escapeRune
  dsimp only
  split
  all_goals first | omega | rw [if_neg (by omega)]

lemma hasBreak_quoteText (t : Text) : hasBreak (quoteText t) = false := by
  have hescape (c : Char) : hasBreak (escapeRune c) = false := by
    refine char_induction (P := fun c => hasBreak (escapeRune c) = false) (by decide +kernel) ?_ c
    intro c hc
    rw [escapeRune_of_le hc, hasBreak_cons, isBreak_of_le hc]
    rfl
  rw [quoteText, toList_quote, hasBreak_cons, hasBreak_append, hasBreak_flatMap fun c _ => hescape c]
  rfl

lemma quoteText_of_isHex {t : Text} (h : IsHex t) : quoteText t = '"' :: (t ++ ['"']) := by
  have hescape (c : Char) : isHexChar c = true → escapeRune c = [c] := by
    refine char_induction (P := fun c => isHexChar c = true → escapeRune c = [c]) (by decide +kernel) ?_ c
    exact fun c hc _ => escapeRune_of_le hc
  have hflat : t.flatMap escapeRune = t := by
    rw [List.flatMap_congr fun c hc => hescape c (List.all_eq_true.mp h c hc)]
    exact List.flatMap_singleton' t
  rw [quoteText, toList_quote, String.toList_ofList, hflat]

lemma multipartType_eq (subtype : Text) {boundary : Text} (h : IsHex boundary) :
    multipartType subtype boundary = (multipartField subtype boundary).value := by
  have hliteral : "; boundary=".toList ++ ['"'] = ';' :: boundaryPrefix := by decide
  have hquoted : "; boundary=".toList ++ '"' :: (boundary ++ ['"']) =
      ';' :: (boundaryPrefix ++ (boundary ++ ['"'])) := by
    have hcons : ';' :: (boundaryPrefix ++ (boundary ++ ['"'])) =
        (';' :: boundaryPrefix) ++ (boundary ++ ['"']) := rfl
    rw [hcons, ← hliteral, List.append_assoc, List.singleton_append]
  rw [multipartType, quoteText_of_isHex h, hquoted, multipartField, List.append_assoc]

/-! ### The intended message -/

section Document

variable (env : MIMEEnv) (email : Email)

def encodedEntity (header : PartHeader) (data : Bytes) : Entity :=
  .leaf header.fields (wrapBase64 data ++ crlf)

def bodyEntity (contentType : Text) (body : String) : Entity :=
  encodedEntity (bodyPartHeader contentType) (utf8 body.toList)

def alternativeBodies : List (Text × String) :=
  (if email.textBody ≠ "" then [(textPlain, email.textBody)] else []) ++
    (if email.htmlBody ≠ "" then [(textHTML, email.htmlBody)] else [])

def alternativeParts : List Entity :=
  (alternativeBodies email).map fun body => bodyEntity body.1 body.2

def alternativeOrSingle : Entity :=
  if email.textBody ≠ "" ∧ email.htmlBody ≠ "" then
    .multi [] alternativeName env.alternative (alternativeParts email)
  else if email.htmlBody ≠ "" then bodyEntity textHTML email.htmlBody
  else bodyEntity textPlain email.textBody

def inlineEntity (att : Attachment) : Entity := encodedEntity (inlineHeader att) att.data

def attachmentEntity (att : Attachment) : Entity := encodedEntity (attachmentHeader att) att.data

def relatedEntity (fields : List HeaderField) (inline : List Attachment) : Entity :=
  .multi fields relatedName env.related (alternativeOrSingle env email :: inline.map inlineEntity)

def singleEntity (fields : List HeaderField) (contentType : Text) (body : String) : Entity :=
  .leaf (fields ++ [⟨contentTypeName, contentType⟩, ⟨contentTransferEncodingName, base64Name⟩])
    (wrapBase64 (utf8 body.toList) ++ crlf)

def messageEntity (fields : List HeaderField) (regular inline : List Attachment) : Entity :=
  if regular ≠ [] then
    .multi fields mixedName env.mixed
      ((if inline ≠ [] then relatedEntity env email [] inline else alternativeOrSingle env email) ::
        regular.map attachmentEntity)
  else if inline ≠ [] then relatedEntity env email fields inline
  else if email.textBody ≠ "" ∧ email.htmlBody ≠ "" then
    .multi fields alternativeName env.alternative (alternativeParts email)
  else if email.htmlBody ≠ "" then singleEntity fields textHTML email.htmlBody
  else singleEntity fields textPlain email.textBody

def addressFields (name : Text) (addrs : List String) : List HeaderField :=
  if addrs = [] then [] else [⟨name, sanitizeHeaderValue (joinAddresses addrs)⟩]

def customFields (entries : List (Sigma fun _ : String => String)) : List HeaderField :=
  entries.filterMap fun entry =>
    if reservedHeaders.any (equalFold entry.1) then none
    else some ⟨entry.1.toList, sanitizeHeaderValue (encodeHeader entry.2.toList)⟩

def fromField (defaultFrom defaultFromName : String) : HeaderField :=
  ⟨"From".toList, sanitizeHeaderValue (formatAddress
    (if email.fromName = "" then defaultFromName else email.fromName).toList
    (if email.sender = "" then defaultFrom else email.sender).toList)⟩

def standardFields (defaultFrom defaultFromName : String) : List HeaderField :=
  [fromField email defaultFrom defaultFromName] ++ addressFields "To".toList email.toAddrs ++
    addressFields "Cc".toList email.cc ++
    (if email.replyTo = "" then [] else [⟨"Reply-To".toList, sanitizeHeaderValue email.replyTo.toList⟩]) ++
    [⟨"Date".toList, env.date⟩,
      ⟨"Subject".toList, sanitizeHeaderValue (encodeHeader email.subject.toList)⟩] ++
    (if hasMessageID email then [] else [⟨"Message-ID".toList, messageID env⟩]) ++
    [⟨"MIME-Version".toList, "1.0".toList⟩]

def headerFields (defaultFrom defaultFromName : String) : List HeaderField :=
  standardFields env email defaultFrom defaultFromName ++ customFields email.headers.entries

def Email.regularAttachments : List Attachment :=
  (email.attachments.filterMap fun att => att).filter fun att => !att.inline

def Email.inlineAttachments : List Attachment :=
  (email.attachments.filterMap fun att => att).filter Attachment.inline

def document (defaultFrom defaultFromName : String) : Entity :=
  messageEntity env email (headerFields env email defaultFrom defaultFromName) email.regularAttachments
    email.inlineAttachments

end Document

/-! ### What the writers write -/

/-- The function writes the entity as the next part of its writer. -/
def Writes (write : PartWriter → PartWriter) (e : Entity) : Prop :=
  ∀ w, write w =
    { w with started := true, buf := w.buf ++ (opening w.started w.boundary ++ e.render) }

lemma writes_encodedPart (header : PartHeader) (data : Bytes) :
    Writes (fun w => writeEncodedPart w header data) (encodedEntity header data) := by
  intro w
  simp only [writeEncodedPart, PartWriter.createPart, PartWriter.write, encodedEntity, Entity.render,
    List.append_assoc]

lemma writes_bodyPart (contentType : Text) (body : String) :
    Writes (fun w => writeBodyPart w contentType body) (bodyEntity contentType body) :=
  writes_encodedPart _ _

lemma close_foldl {α : Type} {write : PartWriter → α → PartWriter} {entity : α → Entity}
    (h : ∀ a, Writes (fun w => write w a) (entity a)) (as : List α) (w : PartWriter) :
    (as.foldl write w).close = w.buf ++ Entity.renderParts w.boundary w.started (as.map entity) := by
  induction as generalizing w with
  | nil => rfl
  | cons a as ih =>
    have hfirst : write w a = _ := h a w
    rw [List.foldl_cons, hfirst, ih, List.map_cons, Entity.renderParts]
    simp only [List.append_assoc]

lemma close_foldl_writes {α : Type} {first : PartWriter → PartWriter} {e : Entity} (hfirst : Writes first e)
    {write : PartWriter → α → PartWriter} {entity : α → Entity}
    (h : ∀ a, Writes (fun w => write w a) (entity a)) (as : List α) (w : PartWriter) :
    (as.foldl write (first w)).close =
      w.buf ++ Entity.renderParts w.boundary w.started (e :: as.map entity) := by
  rw [hfirst w, close_foldl h, Entity.renderParts]
  simp only [List.append_assoc]

section Writers

variable (env : MIMEEnv) (email : Email)

lemma close_alternativeBodyParts (w : PartWriter) :
    (writeAlternativeBodyParts w email).close =
      w.buf ++ Entity.renderParts w.boundary w.started (alternativeParts email) := by
  have hfold : writeAlternativeBodyParts w email =
      (alternativeBodies email).foldl (fun w body => writeBodyPart w body.1 body.2) w := by
    unfold writeAlternativeBodyParts alternativeBodies
    split_ifs <;> rfl
  have hclose : ∀ body : Text × String,
      Writes (fun w => writeBodyPart w body.1 body.2) (bodyEntity body.1 body.2) :=
    fun body => writes_bodyPart body.1 body.2
  rw [hfold, alternativeParts, close_foldl hclose]

lemma writes_nested (subtype : Text) {boundary : Text} (hb : IsHex boundary) {parts : List Entity}
    {body : PartWriter → Text}
    (hbody : ∀ w, body w = w.buf ++ Entity.renderParts w.boundary w.started parts) :
    Writes (fun w => writeNested w subtype boundary body) (.multi [] subtype boundary parts) := by
  intro w
  simp only [writeNested, hbody, multipartType_eq subtype hb, Entity.render, PartWriter.createPart,
    List.append_assoc]
  rfl

lemma writes_alternativeOrSingle :
    Writes (fun w => writeAlternativeOrSingle env w email) (alternativeOrSingle env email) := by
  unfold writeAlternativeOrSingle alternativeOrSingle
  split_ifs with hboth hhtml
  · exact writes_nested _ env.isHex_alternative (close_alternativeBodyParts email)
  · exact writes_bodyPart _ _
  · exact writes_bodyPart _ _

lemma writeRelatedBody_eq (w : PartWriter) (inline : List Attachment) :
    writeRelatedBody env w email inline = w.buf ++
      Entity.renderParts w.boundary w.started (alternativeOrSingle env email :: inline.map inlineEntity) :=
  close_foldl_writes (writes_alternativeOrSingle env email) (fun _ => writes_encodedPart _ _) inline w

lemma writeField_eq (name value : Text) (fields : List HeaderField) :
    writeField name value (headerBlock fields) = headerBlock (fields ++ [⟨name, value⟩]) := by
  rw [headerBlock_append, writeField]
  simp [headerBlock]

lemma writes_first (inline : List Attachment) :
    Writes (fun w =>
      if inline ≠ [] then
        writeNested w relatedName env.related fun relWriter => writeRelatedBody env relWriter email inline
      else writeAlternativeOrSingle env w email)
      (if inline ≠ [] then relatedEntity env email [] inline else alternativeOrSingle env email) := by
  split_ifs with hinline
  · exact writes_nested _ env.isHex_related fun w => writeRelatedBody_eq env email w inline
  · exact writes_alternativeOrSingle env email

lemma render_multi (fields : List HeaderField) (subtype : Text) {boundary : Text} (hb : IsHex boundary)
    (parts : List Entity) :
    (Entity.multi fields subtype boundary parts).render =
      (writeField contentTypeName (multipartType subtype boundary) (headerBlock fields) ++ crlf) ++
        Entity.renderParts boundary false parts := by
  rw [writeField_eq, multipartType_eq subtype hb, Entity.render, List.append_assoc]
  rfl

lemma render_single (fields : List HeaderField) (contentType : Text) (body : String) :
    (singleEntity fields contentType body).render = writeSingle contentType body (headerBlock fields) := by
  rw [singleEntity, Entity.render, writeSingle, writeField_eq, writeField_eq]
  simp only [List.append_assoc, List.cons_append, List.nil_append]

theorem writeBody_eq (regular inline : List Attachment) (fields : List HeaderField) :
    writeBody env email regular inline (headerBlock fields) =
      (messageEntity env email fields regular inline).render := by
  by_cases hregular : regular = []
  · by_cases hinline : inline = []
    · simp only [writeBody, messageEntity, hregular, hinline, ne_eq, not_true_eq_false, if_false]
      split_ifs
      · rw [render_multi _ _ env.isHex_alternative, close_alternativeBodyParts]
      · exact (render_single _ _ _).symm
      · exact (render_single _ _ _).symm
    · simp only [writeBody, messageEntity, hregular, hinline, ne_eq, not_true_eq_false, not_false_eq_true,
        if_false, if_true]
      rw [relatedEntity, render_multi _ _ env.isHex_related, writeRelatedBody_eq]
  · simp only [writeBody, messageEntity, hregular, ne_eq, not_false_eq_true, if_true]
    rw [render_multi _ _ env.isHex_mixed]
    exact close_foldl_writes (writes_first env email inline) (fun _ => writes_encodedPart _ _) regular _

lemma writeAddresses_eq (name : Text) (addrs : List String) (fields : List HeaderField) :
    writeAddresses name addrs (headerBlock fields) = headerBlock (fields ++ addressFields name addrs) := by
  unfold writeAddresses addressFields
  split_ifs
  · rw [List.append_nil]
  · exact writeField_eq _ _ _

lemma writeCustomHeaders_eq {entries : List (Sigma fun _ : String => String)} {fields : List HeaderField}
    {buf : Text} (h : writeCustomHeaders entries (headerBlock fields) = .ok buf) :
    buf = headerBlock (fields ++ customFields entries) ∧
      ∀ entry ∈ entries, validHeaderFieldName entry.1.toList = true := by
  induction entries generalizing fields with
  | nil =>
    cases h
    rw [customFields, List.filterMap_nil, List.append_nil]
    exact ⟨rfl, List.forall_mem_nil _⟩
  | cons entry entries ih =>
    obtain ⟨k, v⟩ := entry
    rw [writeCustomHeaders] at h
    split_ifs at h with hname hreserved
    · obtain ⟨hbuf, hvalid⟩ := ih h
      refine ⟨?_, List.forall_mem_cons.mpr ⟨eq_true_of_ne_false hname, hvalid⟩⟩
      rw [hbuf, customFields, customFields, List.filterMap_cons, if_pos hreserved]
    · rw [writeField_eq] at h
      obtain ⟨hbuf, hvalid⟩ := ih h
      refine ⟨?_, List.forall_mem_cons.mpr ⟨eq_true_of_ne_false hname, hvalid⟩⟩
      rw [hbuf, customFields, customFields, List.filterMap_cons, if_neg hreserved, List.append_assoc]
      rfl

lemma writeStandardHeaders_eq (defaultFrom defaultFromName : String) :
    writeStandardHeaders env email defaultFrom defaultFromName =
      headerBlock (standardFields env email defaultFrom defaultFromName) := by
  have hnil (name value : Text) : writeField name value [] = headerBlock [⟨name, value⟩] :=
    writeField_eq name value []
  have hoption (c : Prop) [Decidable c] (fields more : List HeaderField) :
      (if c then headerBlock fields else headerBlock (fields ++ more)) =
        headerBlock (fields ++ if c then [] else more) := by
    split_ifs
    · rw [List.append_nil]
    · rfl
  simp only [writeStandardHeaders, hnil, writeAddresses_eq, writeField_eq, hoption]
  simp only [standardFields, fromField, List.append_assoc, List.cons_append, List.nil_append]

lemma writeHeaders_eq {defaultFrom defaultFromName : String} {buf : Text}
    (h : writeHeaders env email defaultFrom defaultFromName = .ok buf) :
    buf = headerBlock (headerFields env email defaultFrom defaultFromName) ∧
      ∀ entry ∈ email.headers.entries, validHeaderFieldName entry.1.toList = true := by
  rw [writeHeaders, writeStandardHeaders_eq] at h
  exact writeCustomHeaders_eq h

lemma splitAttachments_eq {atts : List (Option Attachment)} {regular inline : List Attachment}
    (h : splitAttachments atts = some (regular, inline)) :
    regular = (atts.filterMap fun att => att).filter (fun att => !att.inline) ∧
      inline = (atts.filterMap fun att => att).filter Attachment.inline := by
  induction atts generalizing regular inline with
  | nil =>
    cases h
    exact ⟨rfl, rfl⟩
  | cons att atts ih =>
    cases att with
    | none => cases h
    | some att =>
      obtain ⟨split, hsplit, hcons⟩ := Option.map_eq_some_iff.mp h
      obtain ⟨hregular, hinline⟩ := ih hsplit
      cases hatt : att.inline with
      | true =>
        rw [if_pos hatt] at hcons
        cases hcons
        simp [hatt, hregular, hinline]
      | false =>
        rw [hatt, if_neg Bool.false_ne_true] at hcons
        cases hcons
        simp [hatt, hregular, hinline]

theorem buildMIME_eq {defaultFrom defaultFromName : String} {message : Text}
    (h : buildMIME env email defaultFrom defaultFromName = .ok message) :
    message = (document env email defaultFrom defaultFromName).render ∧
      (∀ entry ∈ email.headers.entries, validHeaderFieldName entry.1.toList = true) := by
  unfold buildMIME at h
  cases hheaders : writeHeaders env email defaultFrom defaultFromName with
  | error err =>
    rw [hheaders] at h
    cases h
  | ok buf =>
    rw [hheaders] at h
    obtain ⟨hbuf, hvalid⟩ := writeHeaders_eq env email hheaders
    cases hsplit : splitAttachments email.attachments with
    | none =>
      rw [hsplit] at h
      cases h
    | some split =>
      rw [hsplit] at h
      cases h
      obtain ⟨hregular, hinline⟩ := splitAttachments_eq hsplit
      refine ⟨?_, hvalid⟩
      rw [hbuf, writeBody_eq, hregular, hinline]
      rfl

end Writers

/-! ### Line breaks in header values -/

lemma hasBreak_sanitizeHeaderValue (v : Text) : hasBreak (sanitizeHeaderValue v) = false := by
  unfold sanitizeHeaderValue
  split_ifs with hbreak
  · exact hasBreak_filter v
  · exact eq_false_of_ne_true hbreak

lemma hasBreak_of_validHeaderFieldName {s : Text} (h : validHeaderFieldName s = true) :
    hasBreak s = false := by
  have hall : ∀ c ∈ s, isFieldNameChar c = true :=
    List.all_eq_true.mp (Bool.and_eq_true_iff.mp h).2
  rw [hasBreak, List.any_eq_false]
  intro c hc hbreak
  rcases Bool.or_eq_true_iff.mp hbreak with hcr | hlf
  · rw [of_decide_eq_true hcr] at hc
    exact absurd (hall _ hc) (by decide)
  · rw [of_decide_eq_true hlf] at hc
    exact absurd (hall _ hc) (by decide)

lemma isPlain_of_isHex {t : Text} (h : IsHex t) : IsPlain t := by
  have hplain (c : Char) (hc : isHexChar c = true) : isPlainChar c = true := by
    rcases Bool.or_eq_true_iff.mp hc with hdigit | hletter
    · exact Bool.or_eq_true_iff.mpr (.inr hdigit)
    · obtain ⟨ha, hf⟩ := Bool.and_eq_true_iff.mp hletter
      have hfz : 'f' ≤ 'z' := by decide
      have hz : c ≤ 'z' := Char.le_trans (of_decide_eq_true hf) hfz
      exact Bool.or_eq_true_iff.mpr (.inl (Bool.and_eq_true_iff.mpr ⟨ha, decide_eq_true hz⟩))
  exact List.all_eq_true.mpr fun c hc => hplain c (List.all_eq_true.mp h c hc)

lemma isPlain_subtypes : IsPlain mixedName ∧ IsPlain relatedName ∧ IsPlain alternativeName := by
  unfold IsPlain
  decide

section HeaderFields

variable (env : MIMEEnv) (email : Email) (defaultFrom defaultFromName : String)

lemma hasBreak_messageID : hasBreak (messageID env) = false := by
  have hhost : hasBreak (if env.hostname = [] then "mailbaby.local".toList else env.hostname) = false := by
    split_ifs
    · decide
    · exact env.hasBreak_hostname
  simp only [messageID, hasBreak_cons, hasBreak_append, (isPlain_of_isHex env.isHex_randomID).hasBreak, hhost]
  rfl

def standardNames : List Text :=
  ["From", "To", "Cc", "Reply-To", "Date", "Subject", "Message-ID", "MIME-Version"].map String.toList

def IsStandard (f : HeaderField) : Prop := f.name ∈ standardNames ∧ hasBreak f.value = false

lemma isStandard_addressFields {name : Text} (hname : name ∈ standardNames) (addrs : List String) :
    ∀ f ∈ addressFields name addrs, IsStandard f := by
  unfold addressFields
  split_ifs
  · exact List.forall_mem_nil _
  · exact List.forall_mem_singleton.mpr ⟨hname, hasBreak_sanitizeHeaderValue _⟩

lemma isStandard_standardFields :
    ∀ f ∈ standardFields env email defaultFrom defaultFromName, IsStandard f := by
  have hnames : "From".toList ∈ standardNames ∧ "To".toList ∈ standardNames ∧ "Cc".toList ∈ standardNames ∧
      "Reply-To".toList ∈ standardNames ∧ "Date".toList ∈ standardNames ∧ "Subject".toList ∈ standardNames ∧
      "Message-ID".toList ∈ standardNames ∧ "MIME-Version".toList ∈ standardNames := by decide
  obtain ⟨hfrom, hto, hcc, hreply, hdate, hsubject, hid, hversion⟩ := hnames
  have hoption {c : Prop} [Decidable c] {f : HeaderField} (hf : IsStandard f) :
      ∀ g ∈ (if c then [] else [f]), IsStandard g := by
    split_ifs
    · exact List.forall_mem_nil _
    · exact List.forall_mem_singleton.mpr hf
  have hone : hasBreak "1.0".toList = false := by decide
  simp only [standardFields, List.forall_mem_append, List.forall_mem_cons]
  exact ⟨⟨⟨⟨⟨⟨⟨⟨hfrom, hasBreak_sanitizeHeaderValue _⟩, List.forall_mem_nil _⟩,
    isStandard_addressFields hto _⟩, isStandard_addressFields hcc _⟩,
    hoption ⟨hreply, hasBreak_sanitizeHeaderValue _⟩⟩,
    ⟨hdate, env.hasBreak_date⟩, ⟨hsubject, hasBreak_sanitizeHeaderValue _⟩, List.forall_mem_nil _⟩,
    hoption ⟨hid, hasBreak_messageID env⟩⟩, ⟨hversion, hone⟩, List.forall_mem_nil _⟩

lemma hasBreak_of_isStandard {f : HeaderField} (h : IsStandard f) : hasBreak f.line = false := by
  have hnames : standardNames.any hasBreak = false := by decide
  rw [hasBreak_line, eq_false_of_ne_true (List.any_eq_false.mp hnames _ h.1), h.2]
  rfl

lemma hasBreak_headerFields
    (hvalid : ∀ entry ∈ email.headers.entries, validHeaderFieldName entry.1.toList = true) :
    ∀ f ∈ headerFields env email defaultFrom defaultFromName, hasBreak f.line = false := by
  intro f hf
  rcases List.mem_append.mp hf with hf | hf
  · exact hasBreak_of_isStandard (isStandard_standardFields env email _ _ f hf)
  · obtain ⟨entry, hentry, hsome⟩ := List.mem_filterMap.mp hf
    split_ifs at hsome
    cases hsome
    rw [hasBreak_line, hasBreak_of_validHeaderFieldName (hvalid entry hentry), hasBreak_sanitizeHeaderValue]
    rfl

end HeaderFields

/-! ### Intact header blocks -/

def AllIntact (e : Entity) : Prop := ∀ block ∈ e.blocks, Intact block

lemma allIntact_leaf (fields : List HeaderField) (body : Text) :
    AllIntact (.leaf fields body) ↔ ∀ f ∈ fields, hasBreak f.line = false := by
  rw [AllIntact, Entity.blocks, List.forall_mem_singleton, intact_iff]

lemma allIntact_multi {fields : List HeaderField} (hfields : ∀ f ∈ fields, hasBreak f.line = false)
    {subtype boundary : Text} (hs : IsPlain subtype) (hb : IsHex boundary) (parts : List Entity) :
    AllIntact (.multi fields subtype boundary parts) ↔ ∀ part ∈ parts, AllIntact part := by
  have hheader : Intact (fields ++ [multipartField subtype boundary]) := by
    rw [intact_iff, List.forall_mem_append, List.forall_mem_singleton]
    exact ⟨hfields, (Entity.multipartField_sound hs (isPlain_of_isHex hb)).hasBreak_line⟩
  rw [AllIntact, Entity.blocks, List.forall_mem_cons, Entity.forall_mem_blocksAll]
  exact and_iff_right hheader

lemma hasBreak_partNames : hasBreak contentTypeName = false ∧ hasBreak contentDispositionName = false ∧
    hasBreak contentIDName = false ∧ hasBreak contentTransferEncodingName = false ∧
    hasBreak base64Name = false := by
  decide

lemma hasBreak_typeValue (att : Attachment) : hasBreak att.typeValue = hasBreak att.contentType.toList := by
  have hname : hasBreak "; name=".toList = false := by decide
  rw [Attachment.typeValue, hasBreak_append, hasBreak_append, hname, Attachment.encodedFilename,
    hasBreak_quoteText, Bool.or_false, Bool.or_false]

section PartFields

variable (att : Attachment)

lemma fields_bodyPartHeader (contentType : Text) : (bodyPartHeader contentType).fields =
    [⟨contentTransferEncodingName, base64Name⟩, ⟨contentTypeName, contentType⟩] := rfl

lemma fields_attachmentHeader : (attachmentHeader att).fields =
    [⟨contentDispositionName, "attachment; filename=".toList ++ att.encodedFilename⟩,
      ⟨contentTransferEncodingName, base64Name⟩, ⟨contentTypeName, att.typeValue⟩] := rfl

lemma fields_inlineHeader : (inlineHeader att).fields =
    [⟨contentDispositionName, "inline; filename=".toList ++ att.encodedFilename⟩,
      ⟨contentIDName, '<' :: (att.contentID.toList ++ ['>'])⟩,
      ⟨contentTransferEncodingName, base64Name⟩, ⟨contentTypeName, att.typeValue⟩] := rfl

lemma allIntact_bodyEntity {contentType : Text} (h : hasBreak contentType = false) (body : String) :
    AllIntact (bodyEntity contentType body) := by
  obtain ⟨htype, -, -, htransfer, hbase64⟩ := hasBreak_partNames
  rw [bodyEntity, encodedEntity, allIntact_leaf, fields_bodyPartHeader]
  simp only [List.forall_mem_cons, hasBreak_line, htype, htransfer, hbase64, h]
  exact ⟨rfl, rfl, List.forall_mem_nil _⟩

lemma hasBreak_filename {literal : Text} (h : hasBreak literal = false) :
    hasBreak (literal ++ att.encodedFilename) = false := by
  rw [hasBreak_append, h, Attachment.encodedFilename, hasBreak_quoteText]
  rfl

lemma allIntact_attachmentEntity :
    AllIntact (attachmentEntity att) ↔ hasBreak att.contentType.toList = false := by
  obtain ⟨htype, hdisposition, -, htransfer, hbase64⟩ := hasBreak_partNames
  have hliteral : hasBreak "attachment; filename=".toList = false := by decide
  rw [attachmentEntity, encodedEntity, allIntact_leaf, fields_attachmentHeader]
  simp only [List.forall_mem_cons, hasBreak_line, htype, hdisposition, htransfer, hbase64, hasBreak_typeValue,
    hasBreak_filename att hliteral, Bool.or_false, Bool.false_or, true_and]
  exact and_iff_left (List.forall_mem_nil _)

lemma allIntact_inlineEntity : AllIntact (inlineEntity att) ↔
    hasBreak att.contentType.toList = false ∧ hasBreak att.contentID.toList = false := by
  obtain ⟨htype, hdisposition, hid, htransfer, hbase64⟩ := hasBreak_partNames
  have hliteral : hasBreak "inline; filename=".toList = false := by decide
  have hangles (t : Text) : hasBreak ('<' :: (t ++ ['>'])) = hasBreak t := by
    rw [hasBreak_cons, hasBreak_append]
    exact Bool.or_false _
  rw [inlineEntity, encodedEntity, allIntact_leaf, fields_inlineHeader]
  simp only [List.forall_mem_cons, hasBreak_line, hangles, htype, hdisposition, hid, htransfer, hbase64,
    hasBreak_typeValue, hasBreak_filename att hliteral, Bool.or_false, Bool.false_or, true_and]
  rw [and_iff_left (List.forall_mem_nil _), and_comm]

end PartFields

lemma hasBreak_bodyTypes : hasBreak textPlain = false ∧ hasBreak textHTML = false := by decide

section Message

variable (env : MIMEEnv) (email : Email)

lemma allIntact_alternativeParts : ∀ part ∈ alternativeParts email, AllIntact part := by
  intro part hpart
  obtain ⟨body, hbody, rfl⟩ := List.mem_map.mp hpart
  refine allIntact_bodyEntity ?_ body.2
  rcases List.mem_append.mp hbody with hbody | hbody
  · split_ifs at hbody
    · rw [List.mem_singleton.mp hbody]
      exact hasBreak_bodyTypes.1
    · cases hbody
  · split_ifs at hbody
    · rw [List.mem_singleton.mp hbody]
      exact hasBreak_bodyTypes.2
    · cases hbody

lemma allIntact_alternativeOrSingle : AllIntact (alternativeOrSingle env email) := by
  unfold alternativeOrSingle
  split_ifs
  · exact (allIntact_multi (List.forall_mem_nil _) isPlain_subtypes.2.2 env.isHex_alternative _).mpr
      (allIntact_alternativeParts email)
  · exact allIntact_bodyEntity hasBreak_bodyTypes.2 _
  · exact allIntact_bodyEntity hasBreak_bodyTypes.1 _

variable {fields : List HeaderField} (hfields : ∀ f ∈ fields, hasBreak f.line = false)

include hfields in
lemma allIntact_relatedEntity (inline : List Attachment) :
    AllIntact (relatedEntity env email fields inline) ↔ ∀ att ∈ inline,
      hasBreak att.contentType.toList = false ∧ hasBreak att.contentID.toList = false := by
  rw [relatedEntity, allIntact_multi hfields isPlain_subtypes.2.1 env.isHex_related, List.forall_mem_cons,
    and_iff_right (allIntact_alternativeOrSingle env email), List.forall_mem_map]
  exact forall₂_congr fun att _ => allIntact_inlineEntity att

include hfields in
lemma allIntact_singleEntity {contentType : Text} (h : hasBreak contentType = false) (body : String) :
    AllIntact (singleEntity fields contentType body) := by
  obtain ⟨htype, -, -, htransfer, hbase64⟩ := hasBreak_partNames
  rw [singleEntity, allIntact_leaf, List.forall_mem_append]
  simp only [List.forall_mem_cons, hasBreak_line, htype, htransfer, hbase64, h]
  exact ⟨fun f hf => (hasBreak_line f).symm.trans (hfields f hf), rfl, rfl, List.forall_mem_nil _⟩

include hfields in
lemma allIntact_messageEntity (regular inline : List Attachment) :
    AllIntact (messageEntity env email fields regular inline) ↔
      (∀ att ∈ regular, hasBreak att.contentType.toList = false) ∧
        ∀ att ∈ inline, hasBreak att.contentType.toList = false ∧ hasBreak att.contentID.toList = false := by
  have hnil : ∀ f ∈ ([] : List HeaderField), hasBreak f.line = false := List.forall_mem_nil _
  unfold messageEntity
  by_cases hregular : regular = []
  · by_cases hinline : inline = []
    · rw [if_neg (not_not.mpr hregular), if_neg (not_not.mpr hinline), hregular, hinline]
      refine iff_of_true ?_ ⟨List.forall_mem_nil _, List.forall_mem_nil _⟩
      split_ifs
      · exact (allIntact_multi hfields isPlain_subtypes.2.2 env.isHex_alternative _).mpr
          (allIntact_alternativeParts email)
      · exact allIntact_singleEntity hfields hasBreak_bodyTypes.2 _
      · exact allIntact_singleEntity hfields hasBreak_bodyTypes.1 _
    · rw [if_neg (not_not.mpr hregular), if_pos hinline, allIntact_relatedEntity env email hfields, hregular,
        and_iff_right (List.forall_mem_nil _)]
  · have hfirst : AllIntact
        (if inline ≠ [] then relatedEntity env email [] inline else alternativeOrSingle env email) ↔
        ∀ att ∈ inline, hasBreak att.contentType.toList = false ∧ hasBreak att.contentID.toList = false := by
      by_cases hinline : inline = []
      · rw [if_neg (not_not.mpr hinline), hinline]
        exact iff_of_true (allIntact_alternativeOrSingle env email) (List.forall_mem_nil _)
      · rw [if_pos hinline, allIntact_relatedEntity env email hnil]
    rw [if_pos hregular, allIntact_multi hfields isPlain_subtypes.1 env.isHex_mixed, List.forall_mem_cons,
      hfirst, List.forall_mem_map, and_comm]
    exact and_congr_left' (forall₂_congr fun att _ => allIntact_attachmentEntity att)

end Message

lemma Email.mem_attachments {email : Email} {att : Attachment} :
    (att ∈ email.regularAttachments ↔ some att ∈ email.attachments ∧ att.inline = false) ∧
      (att ∈ email.inlineAttachments ↔ some att ∈ email.attachments ∧ att.inline = true) := by
  simp [regularAttachments, inlineAttachments]

lemma Email.forall_attachments {email : Email} {P : Attachment → Prop} {Q : Attachment → Prop} :
    ((∀ att ∈ email.regularAttachments, P att) ∧ ∀ att ∈ email.inlineAttachments, Q att) ↔
      ∀ att, some att ∈ email.attachments → (att.inline = false → P att) ∧ (att.inline = true → Q att) := by
  constructor
  · rintro ⟨hregular, hinline⟩ att hatt
    exact ⟨fun hkind => hregular att (mem_attachments.1.mpr ⟨hatt, hkind⟩),
      fun hkind => hinline att (mem_attachments.2.mpr ⟨hatt, hkind⟩)⟩
  · intro hall
    constructor
    · intro att hatt
      obtain ⟨hmem, hkind⟩ := mem_attachments.1.mp hatt
      exact (hall att hmem).1 hkind
    · intro att hatt
      obtain ⟨hmem, hkind⟩ := mem_attachments.2.mp hatt
      exact (hall att hmem).2 hkind

end MailBaby

namespace MailBaby.Proofs

open Lib.Mime

/-- The message has exactly the intended header fields, one line each, if and only if no attachment
has a line break in its content type and no inline attachment has one in its content identifier. -/
theorem mime_headers_intact_iff (env : MIMEEnv) {email : Email} {defaultFrom defaultFromName : String}
    {message : Text} (h : buildMIME env email defaultFrom defaultFromName = .ok message) :
    message = (document env email defaultFrom defaultFromName).render ∧
      ((∀ block ∈ (document env email defaultFrom defaultFromName).blocks, Intact block) ↔
        ∀ att, some att ∈ email.attachments → hasBreak att.contentType.toList = false ∧
          (att.inline = true → hasBreak att.contentID.toList = false)) := by
  obtain ⟨hmessage, hvalid⟩ := buildMIME_eq env email h
  refine ⟨hmessage, ?_⟩
  have hintact := allIntact_messageEntity env email
    (hasBreak_headerFields env email defaultFrom defaultFromName hvalid)
    email.regularAttachments email.inlineAttachments
  refine hintact.trans (Email.forall_attachments.trans (forall₂_congr fun att _ => ?_))
  cases att.inline <;> simp

def mimeEnv : MIMEEnv where
  date := "Mon, 16 Nov 2026 12:00:00 +0000".toList
  randomID := ['0', '1']
  hostname := []
  mixed := ['a']
  related := ['b']
  alternative := ['c']
  hasBreak_date := by decide
  hasBreak_hostname := rfl
  isHex_randomID := rfl
  isHex_mixed := rfl
  isHex_related := rfl
  isHex_alternative := rfl
  mixed_ne_related := by decide
  mixed_ne_alternative := by decide
  related_ne_alternative := by decide

def attachingMail (contentType : String) : Email :=
  { toAddrs := ["a@b.c"]
    attachments := [some { filename := "a.txt", contentType := contentType, data := [104, 105] }] }

theorem mime_headers_intact_iff_plain :
    ∃ message, buildMIME mimeEnv (attachingMail "text/plain") "d@e.f" "" = .ok message ∧
      ∀ block ∈ (document mimeEnv (attachingMail "text/plain") "d@e.f" "").blocks, Intact block := by
  refine ⟨_, rfl, (mime_headers_intact_iff mimeEnv rfl).2.mpr ?_⟩
  intro att hatt
  obtain rfl := Option.some.inj (List.mem_singleton.mp hatt)
  exact ⟨by decide, fun hinline => by cases hinline⟩

theorem injected_header_line :
    ∃ message, buildMIME mimeEnv (attachingMail "text/plain\r\nX-Extra: 1") "d@e.f" "" = .ok message ∧
      message = (document mimeEnv (attachingMail "text/plain\r\nX-Extra: 1") "d@e.f" "").render ∧
      ∃ block ∈ (document mimeEnv (attachingMail "text/plain\r\nX-Extra: 1") "d@e.f" "").blocks,
        block.length = 3 ∧ ¬Intact block ∧
        lines (headerBlock block) =
          ["Content-Disposition: attachment; filename=\"a.txt\"", "Content-Transfer-Encoding: base64",
            "Content-Type: text/plain", "X-Extra: 1; name=\"a.txt\"", ""].map String.toList := by
  have hmem : (attachmentHeader
      { filename := "a.txt", contentType := "text/plain\r\nX-Extra: 1", data := [104, 105] }).fields ∈
      (document mimeEnv (attachingMail "text/plain\r\nX-Extra: 1") "d@e.f" "").blocks := by
    decide +kernel
  have hlines : lines (headerBlock (attachmentHeader
      { filename := "a.txt", contentType := "text/plain\r\nX-Extra: 1", data := [104, 105] }).fields) =
      ["Content-Disposition: attachment; filename=\"a.txt\"", "Content-Transfer-Encoding: base64",
        "Content-Type: text/plain", "X-Extra: 1; name=\"a.txt\"", ""].map String.toList := by
    decide +kernel
  refine ⟨_, rfl, (buildMIME_eq mimeEnv _ rfl).1, _, hmem, rfl, ?_, hlines⟩
  intro hintact
  have hlength := congrArg List.length (hlines.symm.trans hintact)
  exact absurd hlength (by simp [fields_attachmentHeader])

end MailBaby.Proofs
