import MailBaby.Proofs.Mime

/-!
# Reading built messages back

A MIME reader finds the bodies and the attachments of the email in the message, in their order and
unchanged.
-/

namespace MailBaby

open Lib Lib.Mime

variable {fields : List HeaderField} {f : HeaderField} {boundary contentType : Text}

/-! ### Base64 content -/

def chunk (encoded : Text) (i : Nat) : Text := (encoded.drop (i * lineLen)).take lineLen

lemma chunk_subset (encoded : Text) (i : Nat) : chunk encoded i ⊆ encoded := by
  intro c hc
  exact List.mem_of_mem_drop (List.mem_of_mem_take hc)

lemma flatMap_chunk (encoded : Text) (n : Nat) :
    (List.range n).flatMap (chunk encoded) = encoded.take (n * lineLen) := by
  induction n with
  | zero => simp
  | succ n ih => rw [List.range_succ, List.flatMap_append, ih, List.flatMap_singleton, Nat.succ_mul, List.take_add, chunk]

lemma rdropWhile_append_crlf (t : Text) : (t ++ crlf).rdropWhile isBreak = t.rdropWhile isBreak := by
  have hpair : t ++ crlf = (t ++ ['\r']) ++ ['\n'] := by
    rw [List.append_assoc]
    rfl
  rw [hpair, List.rdropWhile_concat_pos _ _ _ rfl, List.rdropWhile_concat_pos _ _ _ rfl]

lemma wrapBase64_eq (data : Bytes) :
    ∃ k, (k = 0 ∨ k * lineLen < (Base64.encode data).length) ∧ (Base64.encode data).length ≤ (k + 1) * lineLen ∧
      wrapBase64 data = ((List.range k).flatMap fun i => chunk (Base64.encode data) i ++ crlf) ++
        chunk (Base64.encode data) k := by
  have hclean : ∀ c ∈ Base64.encode data, isBreak c = false := fun c hc => (isBreak_of_mem_encode hc).1
  unfold wrapBase64
  generalize Base64.encode data = encoded at hclean ⊢
  dsimp only
  split_ifs with hshort
  · have hchunk : chunk encoded 0 = encoded := by
      rw [chunk, Nat.zero_mul, List.drop_zero, List.take_of_length_le hshort]
    exact ⟨0, .inl rfl, by omega, hchunk.symm⟩
  · obtain ⟨k, hk⟩ : ∃ k, (encoded.length + (lineLen - 1)) / lineLen = k + 1 := by
      apply Nat.exists_eq_succ_of_ne_zero
      unfold lineLen at hshort ⊢
      omega
    have hlast : chunk encoded k ≠ [] := by
      rw [ne_eq, ← List.length_eq_zero_iff, chunk, List.length_take, List.length_drop]
      unfold lineLen at hk hshort ⊢
      omega
    refine ⟨k, .inr ?_, ?_, ?_⟩
    · unfold lineLen at hk ⊢
      omega
    · unfold lineLen at hk ⊢
      omega
    · have hbreakLines : breakLines encoded = (List.range (k + 1)).flatMap fun i => chunk encoded i ++ crlf := by
        rw [← hk]
        rfl
      rw [hbreakLines, List.range_succ, List.flatMap_append, List.flatMap_singleton, ← List.append_assoc,
        rdropWhile_append_crlf]
      refine List.rdropWhile_eq_self_iff.mpr fun hne hbreak => ?_
      rw [List.getLast_append_of_ne_nil _ hlast, hclean _ (chunk_subset encoded k (List.getLast_mem hlast))] at hbreak
      cases hbreak

lemma filter_wrapBase64 (data : Bytes) :
    (wrapBase64 data ++ crlf).filter (fun c => !isBreak c) = Base64.encode data := by
  have hcrlf : crlf.filter (fun c => !isBreak c) = [] := rfl
  have hchunk (i : Nat) : (chunk (Base64.encode data) i).filter (fun c => !isBreak c) =
      chunk (Base64.encode data) i := by
    rw [List.filter_eq_self]
    intro c hc
    rw [(isBreak_of_mem_encode (chunk_subset _ i hc)).1]
    rfl
  obtain ⟨k, -, hlength, hwrap⟩ := wrapBase64_eq data
  rw [hwrap]
  simp only [List.filter_append, List.filter_flatMap, hcrlf, hchunk, List.append_nil]
  rw [← List.flatMap_singleton (chunk _) k, ← List.flatMap_append, ← List.range_succ, flatMap_chunk,
    List.take_of_length_le hlength]

lemma head?_lines_wrapBase64 (data : Bytes) :
    ∀ l ∈ lines (wrapBase64 data ++ crlf), l.head? ≠ some '-' := by
  intro l hl hhead
  obtain ⟨hmem, hbreak⟩ := mem_of_mem_lines hl (List.mem_of_head? hhead)
  have hencode : '-' ∈ Base64.encode data := by
    rw [← filter_wrapBase64, List.mem_filter]
    exact ⟨hmem, rfl⟩
  exact (isBreak_of_mem_encode hencode).2 rfl

/-! ### Fields fill their lines -/

/-- A name that neither holds a colon nor starts like a delimiter or a continuation. -/
def isFieldStart (name : Text) : Bool :=
  match name with
  | [] => false
  | c :: rest => c ≠ '-' && !isBlank c && !(c :: rest).contains ':'

lemma sound_of_isFieldStart (hname : isFieldStart f.name = true)
    (hline : hasBreak f.line = false) : f.Sound := by
  cases hf : f.name with
  | nil =>
    rw [hf] at hname
    cases hname
  | cons c rest =>
    rw [hf, isFieldStart, Bool.and_eq_true, Bool.and_eq_true, Bool.not_eq_true', Bool.not_eq_true',
      decide_eq_true_eq] at hname
    refine ⟨hline, ?_, c, rest, hf, hname.1.1, hname.1.2⟩
    rw [hf]
    exact fun hmem => Bool.false_ne_true (hname.2.symm.trans (List.contains_iff_mem.mpr hmem))

lemma isFieldStart_partNames : isFieldStart contentTypeName = true ∧
    isFieldStart contentDispositionName = true ∧ isFieldStart contentIDName = true ∧
    isFieldStart contentTransferEncodingName = true := by
  decide

lemma IsStandard.sound (h : IsStandard f) :
    f.Sound ∧ lower f.name ≠ "content-type".toList ∧ lower f.name ≠ "content-transfer-encoding".toList := by
  have hstart : standardNames.all isFieldStart = true := by decide
  have hother : standardNames.all (fun name => lower name ≠ "content-type".toList ∧
      lower name ≠ "content-transfer-encoding".toList) = true := by decide
  exact ⟨sound_of_isFieldStart (List.all_eq_true.mp hstart _ h.1) (hasBreak_of_isStandard h),
    of_decide_eq_true (List.all_eq_true.mp hother _ h.1)⟩

lemma isFieldStart_of_mem_fields {header : PartHeader} (h : f ∈ header.fields) :
    isFieldStart f.name = true := by
  obtain ⟨htype, hdisposition, hid, htransfer⟩ := isFieldStart_partNames
  simp only [PartHeader.fields, List.mem_append, Option.mem_toList, Option.map_eq_some_iff,
    List.mem_singleton] at h
  rcases h with ((⟨v, -, rfl⟩ | ⟨v, -, rfl⟩) | ⟨v, -, rfl⟩) | rfl
  · exact hdisposition
  · exact hid
  · exact htransfer
  · exact htype

lemma sound_encodedEntity_of_intact {header : PartHeader} {data : Bytes}
    (h : AllIntact (encodedEntity header data)) : (encodedEntity header data).Sound := by
  rw [encodedEntity, allIntact_leaf] at h
  rw [encodedEntity, Entity.Sound]
  refine ⟨fun f hf => ?_, head?_lines_wrapBase64 data⟩
  exact sound_of_isFieldStart (isFieldStart_of_mem_fields hf) (h f hf)

/-! ### The message is sound -/

section Sound

variable (env : MIMEEnv) (email : Email)

lemma leaf_of_mem_alternativeParts {part : Entity} (h : part ∈ alternativeParts email) :
    part.Sound ∧ part.boundaries = [] ∧ part.depth = 1 := by
  have hintact := allIntact_alternativeParts email part h
  obtain ⟨body, -, rfl⟩ := List.mem_map.mp h
  exact ⟨sound_encodedEntity_of_intact hintact, by rw [bodyEntity, encodedEntity, Entity.boundaries],
    by rw [bodyEntity, encodedEntity, Entity.depth]⟩

lemma sound_multi (hfields : ∀ f ∈ fields, IsStandard f)
    {subtype : Text} (hs : IsPlain subtype) (hb : IsHex boundary) {parts : List Entity}
    (hnot : boundary ∉ Entity.boundariesAll parts) (hparts : ∀ part ∈ parts, part.Sound) :
    (Entity.multi fields subtype boundary parts).Sound := by
  have hname : lower contentTypeName = "content-type".toList := by decide
  rw [Entity.Sound, hname]
  refine ⟨fun f hf => ?_, hs, isPlain_of_isHex hb, hnot, Entity.soundAll_iff.mpr hparts⟩
  exact ⟨(hfields f hf).sound.1, (hfields f hf).sound.2.1⟩

lemma sound_alternative (hfields : ∀ f ∈ fields, IsStandard f) :
    (Entity.multi fields alternativeName env.alternative (alternativeParts email)).Sound := by
  apply sound_multi hfields isPlain_subtypes.2.2 env.isHex_alternative
  · exact Entity.not_mem_boundariesAll (fun part hpart => (leaf_of_mem_alternativeParts email hpart).2.1) _
  · exact fun part hpart => (leaf_of_mem_alternativeParts email hpart).1

lemma sound_alternativeOrSingle : (alternativeOrSingle env email).Sound := by
  have hintact := allIntact_alternativeOrSingle env email
  unfold alternativeOrSingle at hintact ⊢
  split_ifs at hintact ⊢
  · exact sound_alternative env email (List.forall_mem_nil _)
  · exact sound_encodedEntity_of_intact hintact
  · exact sound_encodedEntity_of_intact hintact

lemma boundaries_alternativeOrSingle
    (h : boundary ∈ (alternativeOrSingle env email).boundaries) : boundary = env.alternative := by
  unfold alternativeOrSingle at h
  split_ifs at h
  · rw [Entity.boundaries] at h
    rcases List.mem_cons.mp h with h | h
    · exact h
    · refine absurd h (Entity.not_mem_boundariesAll (fun part hpart => ?_) _)
      exact (leaf_of_mem_alternativeParts email hpart).2.1
  · rw [bodyEntity, encodedEntity, Entity.boundaries] at h
    cases h
  · rw [bodyEntity, encodedEntity, Entity.boundaries] at h
    cases h

lemma boundaries_inlineEntity (att : Attachment) : (inlineEntity att).boundaries = [] := by
  rw [inlineEntity, encodedEntity, Entity.boundaries]

lemma boundaries_attachmentEntity (att : Attachment) : (attachmentEntity att).boundaries = [] := by
  rw [attachmentEntity, encodedEntity, Entity.boundaries]

lemma boundaries_relatedEntity {inline : List Attachment}
    (h : boundary ∈ (relatedEntity env email fields inline).boundaries) :
    boundary = env.related ∨ boundary = env.alternative := by
  rw [relatedEntity, Entity.boundaries] at h
  rcases List.mem_cons.mp h with h | h
  · exact .inl h
  · exact .inr (boundaries_alternativeOrSingle env email (Entity.mem_boundariesAll_cons boundaries_inlineEntity h))

lemma sound_relatedEntity (hfields : ∀ f ∈ fields, IsStandard f)
    {inline : List Attachment} (hinline : ∀ att ∈ inline, AllIntact (inlineEntity att)) :
    (relatedEntity env email fields inline).Sound := by
  apply sound_multi hfields isPlain_subtypes.2.1 env.isHex_related
  · intro hmem
    exact env.related_ne_alternative
      (boundaries_alternativeOrSingle env email (Entity.mem_boundariesAll_cons boundaries_inlineEntity hmem))
  · rw [List.forall_mem_cons, List.forall_mem_map]
    refine ⟨sound_alternativeOrSingle env email, fun att hatt => ?_⟩
    exact sound_encodedEntity_of_intact (hinline att hatt)

lemma sound_singleEntity (hfields : ∀ f ∈ fields, IsStandard f) (h : hasBreak contentType = false) (body : String) :
    (singleEntity fields contentType body).Sound := by
  obtain ⟨htype, -, -, htransfer⟩ := isFieldStart_partNames
  have hintact := allIntact_singleEntity (fun f hf => hasBreak_of_isStandard (hfields f hf)) h body
  rw [singleEntity, allIntact_leaf, List.forall_mem_append] at hintact
  simp only [List.forall_mem_cons] at hintact
  rw [singleEntity, Entity.Sound, List.forall_mem_append]
  refine ⟨⟨fun f hf => (hfields f hf).sound.1, ?_⟩, head?_lines_wrapBase64 _⟩
  simp only [List.forall_mem_cons]
  exact ⟨sound_of_isFieldStart htype hintact.2.1, sound_of_isFieldStart htransfer hintact.2.2.1,
    List.forall_mem_nil _⟩

theorem sound_messageEntity (hfields : ∀ f ∈ fields, IsStandard f)
    {regular inline : List Attachment} (hregular : ∀ att ∈ regular, AllIntact (attachmentEntity att))
    (hinline : ∀ att ∈ inline, AllIntact (inlineEntity att)) :
    (messageEntity env email fields regular inline).Sound := by
  unfold messageEntity
  by_cases hr : regular = []
  · by_cases hi : inline = []
    · rw [if_neg (not_not.mpr hr), if_neg (not_not.mpr hi)]
      split_ifs
      · exact sound_alternative env email hfields
      · exact sound_singleEntity hfields hasBreak_bodyTypes.2 _
      · exact sound_singleEntity hfields hasBreak_bodyTypes.1 _
    · rw [if_neg (not_not.mpr hr), if_pos hi]
      exact sound_relatedEntity env email hfields hinline
  · rw [if_pos hr]
    have hfirst : (if inline ≠ [] then relatedEntity env email [] inline
        else alternativeOrSingle env email).Sound := by
      split_ifs
      · exact sound_relatedEntity env email (List.forall_mem_nil _) hinline
      · exact sound_alternativeOrSingle env email
    apply sound_multi hfields isPlain_subtypes.1 env.isHex_mixed
    · intro hmem
      have hcases := Entity.mem_boundariesAll_cons boundaries_attachmentEntity hmem
      split_ifs at hcases
      · rcases boundaries_relatedEntity env email hcases with h | h
        · exact env.mixed_ne_related h
        · exact env.mixed_ne_alternative h
      · exact env.mixed_ne_alternative (boundaries_alternativeOrSingle env email hcases)
    · rw [List.forall_mem_cons, List.forall_mem_map]
      exact ⟨hfirst, fun att hatt => sound_encodedEntity_of_intact (hregular att hatt)⟩

end Sound

/-! ### What the message holds -/

/-- The attachment is not declared to be a multipart message. -/
def Attachment.isOpenable (att : Attachment) : Bool := (multipartSubtype att.contentType.toList).isNone

def attachmentContent (att : Attachment) : Content := .leaf att.data

section Content

variable (email : Email)

def bodyContent : Content :=
  if email.textBody ≠ "" ∧ email.htmlBody ≠ "" then
    .multi alternativeName [.leaf (utf8 email.textBody.toList), .leaf (utf8 email.htmlBody.toList)]
  else if email.htmlBody ≠ "" then .leaf (utf8 email.htmlBody.toList)
  else .leaf (utf8 email.textBody.toList)

def relatedContent (inline : List Attachment) : Content :=
  .multi relatedName (bodyContent email :: inline.map attachmentContent)

def messageContent (regular inline : List Attachment) : Content :=
  if regular ≠ [] then
    .multi mixedName ((if inline ≠ [] then relatedContent email inline else bodyContent email) ::
      regular.map attachmentContent)
  else if inline ≠ [] then relatedContent email inline
  else bodyContent email

def bodyLeaves : List Bytes :=
  if email.textBody ≠ "" ∧ email.htmlBody ≠ "" then
    [utf8 email.textBody.toList, utf8 email.htmlBody.toList]
  else if email.htmlBody ≠ "" then [utf8 email.htmlBody.toList]
  else [utf8 email.textBody.toList]

lemma leavesAll_map (atts : List Attachment) :
    Content.leavesAll (atts.map attachmentContent) = atts.map Attachment.data := by
  induction atts with
  | nil => rw [List.map_nil, Content.leavesAll, List.map_nil]
  | cons att atts ih =>
    rw [List.map_cons, Content.leavesAll, ih, attachmentContent, Content.leaves]
    rfl

lemma leaves_bodyContent : (bodyContent email).leaves = bodyLeaves email := by
  unfold bodyContent bodyLeaves
  split_ifs <;> simp [Content.leaves, Content.leavesAll]

lemma leaves_relatedContent (inline : List Attachment) :
    (relatedContent email inline).leaves = bodyLeaves email ++ inline.map Attachment.data := by
  rw [relatedContent, Content.leaves, Content.leavesAll, leavesAll_map, leaves_bodyContent]

theorem leaves_messageContent (regular inline : List Attachment) :
    (messageContent email regular inline).leaves =
      bodyLeaves email ++ inline.map Attachment.data ++ regular.map Attachment.data := by
  have hfirst : (if inline ≠ [] then relatedContent email inline else bodyContent email).leaves =
      bodyLeaves email ++ inline.map Attachment.data := by
    by_cases hi : inline = []
    · rw [if_neg (not_not.mpr hi), leaves_bodyContent, hi, List.map_nil, List.append_nil]
    · rw [if_pos hi, leaves_relatedContent]
  unfold messageContent
  by_cases hr : regular = []
  · rw [if_neg (not_not.mpr hr), hfirst, hr, List.map_nil, List.append_nil]
  · rw [if_pos hr, Content.leaves, Content.leavesAll, leavesAll_map, hfirst]

end Content

/-! ### What is read -/

def openLeaf (contentType : Text) (data : Bytes) : Option Content :=
  if (multipartSubtype contentType).isNone then some (.leaf data) else none

lemma content_leaf (contentType : Text)
    (htransfer : lookup "content-transfer-encoding" fields = base64Name)
    (htype : lookup "content-type" fields = contentType) (data : Bytes) :
    (Entity.leaf fields (wrapBase64 data ++ crlf)).content = openLeaf contentType data := by
  have hbase64 : lower (trim base64Name) = "base64".toList := by decide
  have hread :
      readLeaf fields ((wrapBase64 data ++ crlf).filter fun c => !isBreak c) = some (.leaf data) := by
    rw [readLeaf, htransfer, if_pos hbase64, filter_wrapBase64, Base64.decode_encode]
    rfl
  rw [Entity.content, htype, hread, openLeaf]
  cases multipartSubtype contentType <;> rfl

lemma lower_partNames :
    lower contentTypeName = "content-type".toList ∧
    lower contentTransferEncodingName = "content-transfer-encoding".toList ∧
    lower contentTypeName ≠ "content-transfer-encoding".toList ∧
    lower contentTransferEncodingName ≠ "content-type".toList ∧
    lower contentDispositionName ≠ "content-type".toList ∧
    lower contentDispositionName ≠ "content-transfer-encoding".toList ∧
    lower contentIDName ≠ "content-type".toList ∧
    lower contentIDName ≠ "content-transfer-encoding".toList := by
  decide

lemma takeWhile_typeValue (t rest : Text) :
    (t ++ ';' :: rest).takeWhile (· ≠ ';') = t.takeWhile (· ≠ ';') := by
  induction t with
  | nil => rfl
  | cons c t ih => rw [List.cons_append, List.takeWhile_cons, List.takeWhile_cons, ih]

lemma multipartSubtype_typeValue (att : Attachment) :
    multipartSubtype att.typeValue = multipartSubtype att.contentType.toList := by
  have hliteral : "; name=".toList = ';' :: " name=".toList := by decide
  have hmedia : mediaType att.typeValue = mediaType att.contentType.toList := by
    rw [mediaType, Attachment.typeValue, hliteral, List.cons_append, takeWhile_typeValue, mediaType]
  rw [multipartSubtype, multipartSubtype, hmedia]

lemma content_attachmentEntity (att : Attachment) :
    (attachmentEntity att).content = if att.isOpenable then some (attachmentContent att) else none := by
  obtain ⟨ht, he, hte, het, hdt, hde, -, -⟩ := lower_partNames
  rw [attachmentEntity, encodedEntity, content_leaf att.typeValue, openLeaf,
    multipartSubtype_typeValue]
  · rfl
  · rw [fields_attachmentHeader, lookup_cons, if_neg hde, lookup_cons, if_pos he]
  · rw [fields_attachmentHeader, lookup_cons, if_neg hdt, lookup_cons, if_neg het, lookup_cons, if_pos ht]

lemma content_inlineEntity (att : Attachment) :
    (inlineEntity att).content = if att.isOpenable then some (attachmentContent att) else none := by
  obtain ⟨ht, he, hte, het, hdt, hde, hit, hie⟩ := lower_partNames
  rw [inlineEntity, encodedEntity, content_leaf att.typeValue, openLeaf,
    multipartSubtype_typeValue]
  · rfl
  · rw [fields_inlineHeader, lookup_cons, if_neg hde, lookup_cons, if_neg hie, lookup_cons, if_pos he]
  · rw [fields_inlineHeader, lookup_cons, if_neg hdt, lookup_cons, if_neg hit, lookup_cons, if_neg het,
      lookup_cons, if_pos ht]

lemma content_bodyEntity (h : multipartSubtype contentType = none) (body : String) :
    (bodyEntity contentType body).content = some (.leaf (utf8 body.toList)) := by
  obtain ⟨ht, he, hte, het, -⟩ := lower_partNames
  rw [bodyEntity, encodedEntity, content_leaf contentType, openLeaf, h]
  · rfl
  · rw [fields_bodyPartHeader, lookup_cons, if_pos he]
  · rw [fields_bodyPartHeader, lookup_cons, if_neg het, lookup_cons, if_pos ht]

lemma content_singleEntity (hfields : ∀ f ∈ fields, IsStandard f) (h : multipartSubtype contentType = none) (body : String) :
    (singleEntity fields contentType body).content = some (.leaf (utf8 body.toList)) := by
  obtain ⟨ht, he, hte, het, -⟩ := lower_partNames
  rw [singleEntity, content_leaf contentType, openLeaf, h]
  · rfl
  · rw [lookup_append fun f hf => (hfields f hf).sound.2.2, lookup_cons, if_neg hte, lookup_cons, if_pos he]
  · rw [lookup_append fun f hf => (hfields f hf).sound.2.1, lookup_cons, if_pos ht]

lemma multipartSubtype_bodyTypes : multipartSubtype textPlain = none ∧ multipartSubtype textHTML = none := by
  decide

section Read

variable (env : MIMEEnv) (email : Email)

lemma contentAll_map {entity : Attachment → Entity}
    (h : ∀ att, (entity att).content = if att.isOpenable then some (attachmentContent att) else none)
    (atts : List Attachment) :
    Entity.contentAll (atts.map entity) =
      if atts.all Attachment.isOpenable then some (atts.map attachmentContent) else none := by
  induction atts with
  | nil =>
    rw [List.map_nil, Entity.contentAll]
    rfl
  | cons att atts ih =>
    rw [List.map_cons, Entity.contentAll, h att, ih, List.all_cons]
    cases att.isOpenable <;> cases atts.all Attachment.isOpenable <;> rfl

lemma content_multi {first : Entity} {c : Content} {ok : Bool}
    (hfirst : first.content = if ok then some c else none) {entity : Attachment → Entity}
    (h : ∀ att, (entity att).content = if att.isOpenable then some (attachmentContent att) else none)
    (fields : List HeaderField) (subtype boundary : Text) (atts : List Attachment) :
    (Entity.multi fields subtype boundary (first :: atts.map entity)).content =
      if ok && atts.all Attachment.isOpenable then some (.multi subtype (c :: atts.map attachmentContent))
      else none := by
  rw [Entity.content, Entity.contentAll, hfirst, contentAll_map h]
  cases ok <;> cases atts.all Attachment.isOpenable <;> rfl

lemma content_alternative (hboth : email.textBody ≠ "" ∧ email.htmlBody ≠ "") (fields : List HeaderField) :
    (Entity.multi fields alternativeName env.alternative (alternativeParts email)).content =
      some (bodyContent email) := by
  have hparts : alternativeParts email =
      [bodyEntity textPlain email.textBody, bodyEntity textHTML email.htmlBody] := by
    rw [alternativeParts, alternativeBodies, if_pos hboth.1, if_pos hboth.2]
    rfl
  rw [hparts, bodyContent, if_pos hboth, Entity.content, Entity.contentAll, Entity.contentAll,
    Entity.contentAll, content_bodyEntity multipartSubtype_bodyTypes.1,
    content_bodyEntity multipartSubtype_bodyTypes.2]
  rfl

lemma content_alternativeOrSingle : (alternativeOrSingle env email).content = some (bodyContent email) := by
  unfold alternativeOrSingle
  split_ifs with hboth hhtml
  · exact content_alternative env email hboth []
  · rw [content_bodyEntity multipartSubtype_bodyTypes.2, bodyContent, if_neg hboth, if_pos hhtml]
  · rw [content_bodyEntity multipartSubtype_bodyTypes.1, bodyContent, if_neg hboth, if_neg hhtml]

lemma content_relatedEntity (fields : List HeaderField) (inline : List Attachment) :
    (relatedEntity env email fields inline).content =
      if inline.all Attachment.isOpenable then some (relatedContent email inline) else none := by
  have hfirst : (alternativeOrSingle env email).content = if true then some (bodyContent email) else none :=
    content_alternativeOrSingle env email
  rw [relatedEntity, content_multi hfirst content_inlineEntity, Bool.true_and, relatedContent]

theorem content_messageEntity (hfields : ∀ f ∈ fields, IsStandard f)
    (regular inline : List Attachment) :
    (messageEntity env email fields regular inline).content =
      if inline.all Attachment.isOpenable && regular.all Attachment.isOpenable then
        some (messageContent email regular inline)
      else none := by
  unfold messageEntity messageContent
  by_cases hr : regular = []
  · rw [if_neg (not_not.mpr hr), if_neg (not_not.mpr hr), hr, List.all_nil, Bool.and_true]
    by_cases hi : inline = []
    · rw [if_neg (not_not.mpr hi), if_neg (not_not.mpr hi), hi, List.all_nil, if_pos rfl]
      split_ifs with hboth hhtml
      · exact content_alternative env email hboth fields
      · rw [content_singleEntity hfields multipartSubtype_bodyTypes.2, bodyContent, if_neg hboth,
          if_pos hhtml]
      · rw [content_singleEntity hfields multipartSubtype_bodyTypes.1, bodyContent, if_neg hboth,
          if_neg hhtml]
    · rw [if_pos hi, if_pos hi, content_relatedEntity]
  · rw [if_pos hr, if_pos hr]
    have hfirst : (if inline ≠ [] then relatedEntity env email [] inline
        else alternativeOrSingle env email).content =
        if inline.all Attachment.isOpenable then
          some (if inline ≠ [] then relatedContent email inline else bodyContent email)
        else none := by
      by_cases hi : inline = []
      · rw [if_neg (not_not.mpr hi), if_neg (not_not.mpr hi), hi, content_alternativeOrSingle]
        rfl
      · rw [if_pos hi, if_pos hi, content_relatedEntity]
    exact content_multi hfirst content_attachmentEntity fields mixedName env.mixed regular

lemma depth_encodedEntity (header : PartHeader) (data : Bytes) : (encodedEntity header data).depth = 1 := by
  rw [encodedEntity, Entity.depth]

lemma depth_alternative (fields : List HeaderField) :
    (Entity.multi fields alternativeName env.alternative (alternativeParts email)).depth ≤ 2 :=
  Entity.depth_multi_le fun _ hpart => (leaf_of_mem_alternativeParts email hpart).2.2.le

lemma depth_alternativeOrSingle : (alternativeOrSingle env email).depth ≤ 2 := by
  unfold alternativeOrSingle
  split_ifs
  · exact depth_alternative env email []
  · rw [bodyEntity, depth_encodedEntity]
    decide
  · rw [bodyEntity, depth_encodedEntity]
    decide

lemma depth_relatedEntity (fields : List HeaderField) (inline : List Attachment) :
    (relatedEntity env email fields inline).depth ≤ 3 := by
  apply Entity.depth_multi_le
  rw [List.forall_mem_cons, List.forall_mem_map]
  refine ⟨depth_alternativeOrSingle env email, fun att _ => ?_⟩
  rw [inlineEntity, depth_encodedEntity]
  decide

lemma depth_messageEntity (fields : List HeaderField) (regular inline : List Attachment) :
    (messageEntity env email fields regular inline).depth ≤ 4 := by
  unfold messageEntity
  split_ifs
  · apply Entity.depth_multi_le
    rw [List.forall_mem_cons, List.forall_mem_map]
    refine ⟨depth_relatedEntity env email _ _, fun att _ => ?_⟩
    rw [attachmentEntity, depth_encodedEntity]
    decide
  · apply Entity.depth_multi_le
    rw [List.forall_mem_cons, List.forall_mem_map]
    refine ⟨(depth_alternativeOrSingle env email).trans (by decide), fun att _ => ?_⟩
    rw [attachmentEntity, depth_encodedEntity]
    decide
  · exact (depth_relatedEntity env email _ _).trans (by decide)
  · exact (depth_alternative env email _).trans (by decide)
  · rw [singleEntity, Entity.depth]
    decide
  · rw [singleEntity, Entity.depth]
    decide

end Read

lemma exists_splitAttachments {atts : List (Option Attachment)} (h : none ∉ atts) :
    ∃ split, splitAttachments atts = some split := by
  induction atts with
  | nil => exact ⟨_, rfl⟩
  | cons att atts ih =>
    rw [List.mem_cons, not_or] at h
    obtain ⟨split, hsplit⟩ := ih h.2
    cases att with
    | none => exact absurd rfl h.1
    | some att =>
      rw [splitAttachments, hsplit]
      exact ⟨_, rfl⟩

lemma buildMIME_of_plain (env : MIMEEnv) {email : Email} (hheaders : email.headers = ∅)
    (hnil : none ∉ email.attachments) (defaultFrom defaultFromName : String) :
    buildMIME env email defaultFrom defaultFromName =
      .ok (document env email defaultFrom defaultFromName).render := by
  have hwrite : writeHeaders env email defaultFrom defaultFromName =
      .ok (writeStandardHeaders env email defaultFrom defaultFromName) := by
    rw [writeHeaders, hheaders]
    rfl
  have hsome : ∃ message, buildMIME env email defaultFrom defaultFromName = .ok message := by
    obtain ⟨split, hsplit⟩ := exists_splitAttachments hnil
    rw [buildMIME, hwrite, hsplit]
    exact ⟨_, rfl⟩
  obtain ⟨message, hmessage⟩ := hsome
  rw [hmessage, (buildMIME_eq env email hmessage).1]

theorem parse_document (env : MIMEEnv) {email : Email} (hheaders : email.headers = ∅)
    (hclean : ∀ att, some att ∈ email.attachments →
      hasBreak att.contentType.toList = false ∧ hasBreak att.contentID.toList = false)
    (defaultFrom defaultFromName : String) {depth : Nat} (hdepth : 4 ≤ depth) :
    parse depth (document env email defaultFrom defaultFromName).render =
      if email.inlineAttachments.all Attachment.isOpenable &&
          email.regularAttachments.all Attachment.isOpenable then
        some (messageContent email email.regularAttachments email.inlineAttachments)
      else none := by
  have hfields : ∀ f ∈ headerFields env email defaultFrom defaultFromName, IsStandard f := by
    have hnone : customFields (∅ : Headers).entries = [] := rfl
    rw [headerFields, hheaders, hnone, List.append_nil]
    exact isStandard_standardFields env email defaultFrom defaultFromName
  have hsound : (document env email defaultFrom defaultFromName).Sound := by
    refine sound_messageEntity env email hfields (fun att hatt => ?_) (fun att hatt => ?_)
    · exact (allIntact_attachmentEntity att).mpr (hclean att (Email.mem_attachments.1.mp hatt).1).1
    · exact (allIntact_inlineEntity att).mpr (hclean att (Email.mem_attachments.2.mp hatt).1)
  rw [parse_render hsound ((depth_messageEntity env email _ _ _).trans hdepth), document,
    content_messageEntity env email hfields]

lemma all_isOpenable_iff {email : Email} : (email.inlineAttachments.all Attachment.isOpenable &&
    email.regularAttachments.all Attachment.isOpenable) = true ↔
    ∀ att, some att ∈ email.attachments → multipartSubtype att.contentType.toList = none := by
  rw [Bool.and_eq_true, List.all_eq_true, List.all_eq_true, and_comm, Email.forall_attachments]
  apply forall₂_congr
  intro att _
  rw [← Option.isNone_iff_eq_none, ← Attachment.isOpenable]
  cases att.inline <;> simp

end MailBaby

namespace MailBaby.Proofs

open Lib Lib.Mime

/-- What a MIME reader finds in the message is the content of the email, unless an attachment is
declared to be a multipart message; the leaves are the bodies and attachments in their order. -/
theorem mime_round_trip (env : MIMEEnv) (email : Email) (hheaders : email.headers = ∅)
    (hnil : none ∉ email.attachments)
    (hclean : ∀ att, some att ∈ email.attachments →
      hasBreak att.contentType.toList = false ∧ hasBreak att.contentID.toList = false)
    (defaultFrom defaultFromName : String) {depth : Nat} (hdepth : 4 ≤ depth) :
    ∃ message, buildMIME env email defaultFrom defaultFromName = .ok message ∧
      (parse depth message =
          some (messageContent email email.regularAttachments email.inlineAttachments) ↔
        ∀ att, some att ∈ email.attachments → multipartSubtype att.contentType.toList = none) ∧
      (messageContent email email.regularAttachments email.inlineAttachments).leaves =
        bodyLeaves email ++ email.inlineAttachments.map Attachment.data ++
          email.regularAttachments.map Attachment.data := by
  refine ⟨_, buildMIME_of_plain env hheaders hnil defaultFrom defaultFromName, ?_,
    leaves_messageContent email _ _⟩
  rw [parse_document env hheaders hclean defaultFrom defaultFromName hdepth, ← all_isOpenable_iff]
  split_ifs with hopenable
  · exact iff_of_true rfl hopenable
  · exact iff_of_false (fun hsome => by cases hsome) hopenable

lemma attachingMail_plain {contentType : String} (h : hasBreak contentType.toList = false) :
    none ∉ (attachingMail contentType).attachments ∧
      ∀ att, some att ∈ (attachingMail contentType).attachments →
        hasBreak att.contentType.toList = false ∧ hasBreak att.contentID.toList = false := by
  refine ⟨by simp [attachingMail], fun att hatt => ?_⟩
  obtain rfl := Option.some.inj (List.mem_singleton.mp hatt)
  exact ⟨h, rfl⟩

theorem mime_round_trip_plain :
    ∃ message, buildMIME mimeEnv (attachingMail "text/plain") "d@e.f" "" = .ok message ∧
      parse 4 message = some (.multi mixedName [.leaf [], .leaf [104, 105]]) := by
  have hplain : hasBreak "text/plain".toList = false := by decide
  obtain ⟨hnil, hclean⟩ := attachingMail_plain hplain
  obtain ⟨message, hmessage, hparse, -⟩ :=
    mime_round_trip mimeEnv (attachingMail "text/plain") rfl hnil hclean "d@e.f" "" (Nat.le_refl 4)
  refine ⟨message, hmessage, hparse.mpr fun att hatt => ?_⟩
  obtain rfl := Option.some.inj (List.mem_singleton.mp hatt)
  decide

theorem multipart_attachment_unread :
    (attachingMail "multipart/mixed; boundary=x").headers = ∅ ∧
    none ∉ (attachingMail "multipart/mixed; boundary=x").attachments ∧
    (∀ att, some att ∈ (attachingMail "multipart/mixed; boundary=x").attachments →
      hasBreak att.contentType.toList = false ∧ hasBreak att.contentID.toList = false) ∧
    ∃ message, buildMIME mimeEnv (attachingMail "multipart/mixed; boundary=x") "d@e.f" "" = .ok message ∧
      ∀ depth, 4 ≤ depth → parse depth message = none := by
  have hplain : hasBreak "multipart/mixed; boundary=x".toList = false := by decide
  obtain ⟨hnil, hclean⟩ := attachingMail_plain hplain
  refine ⟨rfl, hnil, hclean, _, buildMIME_of_plain mimeEnv rfl hnil _ _, fun depth hdepth => ?_⟩
  have hmulti : multipartSubtype "multipart/mixed; boundary=x".toList ≠ none := by decide
  rw [parse_document mimeEnv rfl hclean _ _ hdepth, if_neg]
  intro hall
  have hattached :
      some { filename := "a.txt", contentType := "multipart/mixed; boundary=x", data := [104, 105] } ∈
        (attachingMail "multipart/mixed; boundary=x").attachments := List.mem_cons_self
  have hnone := all_isOpenable_iff.mp hall _ hattached
  exact hmulti hnone

end MailBaby.Proofs
