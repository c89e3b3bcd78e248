import MailBaby.Proofs.MimeRoundTrip

/-!
# The header of a message

The fields that a reader finds in the header of a message, counted by name. The message writes most of its
fields once and drops custom fields of the same name.
-/

namespace MailBaby

open Lib Lib.Mime

/-! ### Names up to case -/

lemma foldRune_ascii {c : Char} (h : c.toNat < 128) :
    foldRune (Char.toLower c) = foldRune c ∧ Char.toLower (foldRune c) = Char.toLower c := by
  have hall : ∀ k : Fin 128, foldRune (Char.toLower (Char.ofNat k.val)) = foldRune (Char.ofNat k.val) ∧
      Char.toLower (foldRune (Char.ofNat k.val)) = Char.toLower (Char.ofNat k.val) := by decide +kernel
  have hc := hall ⟨c.toNat, h⟩
  rwa [Char.ofNat_toNat] at hc

lemma equalFold_iff_lower {k name : String} (hk : ∀ c ∈ k.toList, c.toNat < 128)
    (hname : ∀ c ∈ name.toList, c.toNat < 128) :
    equalFold k name = true ↔ lower k.toList = lower name.toList := by
  have hfold : ∀ {s : String}, (∀ c ∈ s.toList, c.toNat < 128) →
      (lower s.toList).map foldRune = foldName s ∧ (foldName s).map Char.toLower = lower s.toList := by
    intro s hs
    simp only [lower, foldName, List.map_map]
    exact ⟨List.map_congr_left fun c hc => (foldRune_ascii (hs c hc)).1,
      List.map_congr_left fun c hc => (foldRune_ascii (hs c hc)).2⟩
  rw [equalFold, decide_eq_true_eq]
  constructor
  · intro h
    rw [← (hfold hk).2, ← (hfold hname).2, h]
  · intro h
    rw [← (hfold hk).1, ← (hfold hname).1, h]

lemma ascii_of_validHeaderFieldName {k : Text} (h : validHeaderFieldName k = true) :
    ∀ c ∈ k, c.toNat < 128 := by
  intro c hc
  have hchar : isFieldNameChar c = true := List.all_eq_true.mp (Bool.and_eq_true_iff.mp h).2 c hc
  simp only [isFieldNameChar, Bool.or_eq_true, Bool.and_eq_true, decide_eq_true_eq] at hchar
  omega

/-! ### Counting fields -/

def occurrences (name : String) (fields : List HeaderField) : Nat :=
  fields.countP fun f => lower f.name = lower name.toList

@[simp] lemma occurrences_append (name : String) (fields more : List HeaderField) :
    occurrences name (fields ++ more) = occurrences name fields + occurrences name more := List.countP_append

def customOccurrences (email : Email) (name : String) : Nat :=
  email.headers.entries.countP fun entry => equalFold entry.1 name

def onceNames : List String :=
  ["From", "To", "Cc", "Reply-To", "Date", "Subject", "Message-ID", "MIME-Version", "Content-Type",
    "Content-Transfer-Encoding"]

def requiredNames : List String := ["From", "Date", "Subject", "Message-ID", "MIME-Version", "Content-Type"]

/-- No field of these names occurs twice, the required ones do occur, and blind copies are not shown. -/
structure HeadersOnce (fields : List HeaderField) : Prop where
  once : ∀ name ∈ onceNames, occurrences name fields ≤ 1
  required : ∀ name ∈ requiredNames, occurrences name fields = 1
  bcc : occurrences "Bcc" fields = 0

lemma reserved_congr {k name : String} (h : equalFold k name = true) :
    reservedHeaders.any (equalFold k) = reservedHeaders.any (equalFold name) := by
  have hfold : foldName k = foldName name := of_decide_eq_true h
  refine congrArg (List.any reservedHeaders) (funext fun reserved => ?_)
  rw [equalFold, equalFold, hfold]

lemma occurrences_customFields {entries : List (Sigma fun _ : String => String)}
    (hvalid : ∀ entry ∈ entries, validHeaderFieldName entry.1.toList = true) {name : String}
    (hname : ∀ c ∈ name.toList, c.toNat < 128) :
    occurrences name (customFields entries) =
      if reservedHeaders.any (equalFold name) then 0 else entries.countP fun entry => equalFold entry.1 name := by
  have hentry : ∀ entry ∈ entries, (((if reservedHeaders.any (equalFold entry.1) then none
      else some ⟨entry.1.toList, sanitizeHeaderValue (encodeHeader entry.2.toList)⟩ :
        Option HeaderField).map fun f => decide (lower f.name = lower name.toList)).getD false = true) ↔
      (!reservedHeaders.any (equalFold name) && equalFold entry.1 name) = true := by
    intro entry hmem
    have hiff := equalFold_iff_lower (ascii_of_validHeaderFieldName (hvalid entry hmem)) hname
    by_cases hsame : equalFold entry.1 name = true
    · rw [reserved_congr hsame, hsame]
      cases reservedHeaders.any (equalFold name) with
      | true => simp
      | false => simpa using hiff.mp hsame
    · rw [eq_false_of_ne_true hsame, Bool.and_false]
      have hother : ¬lower entry.1.toList = lower name.toList := fun h => hsame (hiff.mpr h)
      cases reservedHeaders.any (equalFold entry.1) with
      | true => simp
      | false => simpa using hother
  rw [occurrences, customFields, List.countP_filterMap, List.countP_congr hentry]
  cases reservedHeaders.any (equalFold name) with
  | true => simp
  | false => simp

/-! ### The fields of the message itself -/

section Document

variable (env : MIMEEnv) (email : Email) (defaultFrom defaultFromName : String)

def presentNames (toAddrs cc replyTo id : Bool) : List String :=
  ["From"] ++ (if toAddrs then ["To"] else []) ++ (if cc then ["Cc"] else []) ++
    (if replyTo then ["Reply-To"] else []) ++ ["Date", "Subject"] ++ (if id then ["Message-ID"] else []) ++
    ["MIME-Version"]

lemma names_standardFields :
    (standardFields env email defaultFrom defaultFromName).map HeaderField.name =
      (presentNames (email.toAddrs ≠ []) (email.cc ≠ []) (email.replyTo ≠ "") (!hasMessageID email)).map
        String.toList := by
  have haddress : ∀ (name : String) (addrs : List String), (addressFields name.toList addrs).map HeaderField.name =
      (if decide (addrs ≠ []) then [name] else []).map String.toList := by
    intro name addrs
    unfold addressFields
    by_cases haddrs : addrs = []
    · simp [haddrs]
    · simp [haddrs]
  have hreply : (if email.replyTo = "" then [] else
      [(⟨"Reply-To".toList, sanitizeHeaderValue email.replyTo.toList⟩ : HeaderField)]).map HeaderField.name =
      (if decide (email.replyTo ≠ "") then ["Reply-To"] else []).map String.toList := by
    by_cases hempty : email.replyTo = ""
    · simp [hempty]
    · simp [hempty]
  have hid : (if hasMessageID email then [] else
      [(⟨"Message-ID".toList, messageID env⟩ : HeaderField)]).map HeaderField.name =
      (if !hasMessageID email then ["Message-ID"] else []).map String.toList := by
    cases hasMessageID email <;> rfl
  simp only [standardFields, presentNames, List.map_append, haddress, hreply, hid]
  rfl

def isSingle : Bool :=
  email.regularAttachments.isEmpty && email.inlineAttachments.isEmpty &&
    !(email.textBody ≠ "" && email.htmlBody ≠ "")

def contentNames (single : Bool) : List String :=
  ["Content-Type"] ++ if single then ["Content-Transfer-Encoding"] else []

/-- What follows the custom fields: names as told by `contentNames`, and no surprises for a reader. -/
structure ContentFields (single : Bool) (content : List HeaderField) : Prop where
  names_eq : content.map HeaderField.name = (contentNames single).map String.toList
  sound : ∀ f ∈ content, f.Sound

lemma contentFields_multi {subtype boundary : Text} (hs : IsPlain subtype) (hb : IsHex boundary) :
    ContentFields false [multipartField subtype boundary] :=
  ⟨rfl, List.forall_mem_singleton.mpr (Entity.multipartField_sound hs (isPlain_of_isHex hb))⟩

lemma contentFields_single {contentType : Text} (h : hasBreak contentType = false) :
    ContentFields true [⟨contentTypeName, contentType⟩, ⟨contentTransferEncodingName, base64Name⟩] := by
  obtain ⟨htype, -, -, htransfer, hbase64⟩ := hasBreak_partNames
  refine ⟨rfl, List.forall_mem_cons.mpr ⟨?_, List.forall_mem_singleton.mpr ?_⟩⟩
  · refine sound_of_isFieldStart isFieldStart_partNames.1 ?_
    rw [hasBreak_line, htype, h]
    rfl
  · refine sound_of_isFieldStart isFieldStart_partNames.2.2.2 ?_
    rw [hasBreak_line, htransfer, hbase64]
    rfl

lemma header_document : ∃ content, ContentFields (isSingle email) content ∧
    (document env email defaultFrom defaultFromName).header =
      headerFields env email defaultFrom defaultFromName ++ content := by
  unfold document messageEntity
  by_cases hregular : email.regularAttachments = []
  · by_cases hinline : email.inlineAttachments = []
    · rw [if_neg (not_not.mpr hregular), if_neg (not_not.mpr hinline)]
      by_cases hboth : email.textBody ≠ "" ∧ email.htmlBody ≠ ""
      · have hsingle : isSingle email = false := by simp [isSingle, hboth]
        rw [if_pos hboth, hsingle]
        exact ⟨_, contentFields_multi isPlain_subtypes.2.2 env.isHex_alternative, rfl⟩
      · have hsingle : isSingle email = true := by
          simpa [isSingle, hregular, hinline, imp_iff_not_or] using hboth
        rw [if_neg hboth, hsingle]
        split_ifs
        · exact ⟨_, contentFields_single hasBreak_bodyTypes.2, rfl⟩
        · exact ⟨_, contentFields_single hasBreak_bodyTypes.1, rfl⟩
    · have hsingle : isSingle email = false := by simp [isSingle, hinline]
      rw [if_neg (not_not.mpr hregular), if_pos hinline, hsingle]
      exact ⟨_, contentFields_multi isPlain_subtypes.2.1 env.isHex_related, rfl⟩
  · have hsingle : isSingle email = false := by simp [isSingle, hregular]
    rw [if_pos hregular, hsingle]
    exact ⟨_, contentFields_multi isPlain_subtypes.1 env.isHex_mixed, rfl⟩

lemma readable_customFields
    (hvalid : ∀ entry ∈ email.headers.entries, validHeaderFieldName entry.1.toList = true) :
    ∀ f ∈ customFields email.headers.entries, f.Readable := by
  intro f hf
  obtain ⟨entry, hentry, hsome⟩ := List.mem_filterMap.mp hf
  split_ifs at hsome
  cases hsome
  have hchars : ∀ c ∈ entry.1.toList, isFieldNameChar c = true :=
    List.all_eq_true.mp (Bool.and_eq_true_iff.mp (hvalid entry hentry)).2
  refine ⟨fun hcolon => absurd (hchars ':' hcolon) (by decide), ?_⟩
  cases hname : entry.1.toList with
  | nil =>
    have hempty := (Bool.and_eq_true_iff.mp (hvalid entry hentry)).1
    rw [hname] at hempty
    cases hempty
  | cons c rest =>
    refine ⟨c, rest, rfl, ?_⟩
    have hc : isFieldNameChar c = true := hchars c (by rw [hname]; exact List.mem_cons_self)
    cases hblank : isBlank c with
    | false => rfl
    | true =>
      rcases Bool.or_eq_true_iff.mp hblank with hspace | htab
      · rw [of_decide_eq_true hspace] at hc
        exact absurd hc (by decide)
      · rw [of_decide_eq_true htab] at hc
        exact absurd hc (by decide)

lemma readHeader_document {message : Text} (h : buildMIME env email defaultFrom defaultFromName = .ok message) :
    ∃ content, ContentFields (isSingle email) content ∧
      (readHeader (lines message)).1 = standardFields env email defaultFrom defaultFromName ++
        (customFields email.headers.entries ++ content) := by
  obtain ⟨rfl, hvalid⟩ := buildMIME_eq env email h
  obtain ⟨content, hcontent, hheader⟩ := header_document env email defaultFrom defaultFromName
  refine ⟨content, hcontent, ?_⟩
  rw [Entity.readHeader_render, hheader, headerFields, List.append_assoc]
  · rw [hheader]
    intro f hf
    rcases List.mem_append.mp hf with hf | hf
    · exact hasBreak_headerFields env email _ _ hvalid f hf
    · exact (hcontent.sound f hf).hasBreak_line
  · rw [hheader, headerFields]
    intro f hf
    rcases List.mem_append.mp hf with hf | hf
    · rcases List.mem_append.mp hf with hf | hf
      · exact (isStandard_standardFields env email _ _ f hf).sound.1.readable
      · exact readable_customFields email hvalid f hf
    · exact (hcontent.sound f hf).readable

end Document

/-! ### How often the names occur -/

lemma occurrences_of_names (name : String) {fields : List HeaderField} {names : List String}
    (h : fields.map HeaderField.name = names.map String.toList) :
    occurrences name fields = names.countP fun n => lower n.toList = lower name.toList := by
  have hmap : occurrences name fields =
      (fields.map HeaderField.name).countP fun n => lower n = lower name.toList := by
    rw [List.countP_map]
    rfl
  rw [hmap, h, List.countP_map]
  rfl

def ownNames (toAddrs cc replyTo id single : Bool) : List String :=
  presentNames toAddrs cc replyTo id ++ contentNames single

def ownOccurrences (toAddrs cc replyTo id single : Bool) (name : String) : Nat :=
  (ownNames toAddrs cc replyTo id single).countP fun n => lower n.toList = lower name.toList

lemma ownOccurrences_table : ∀ toAddrs cc replyTo id single : Bool,
    (∀ name ∈ onceNames, ownOccurrences toAddrs cc replyTo id single name ≤ 1) ∧
    (∀ name ∈ requiredNames, name ≠ "Message-ID" → ownOccurrences toAddrs cc replyTo id single name = 1) ∧
    ownOccurrences toAddrs cc replyTo id single "Message-ID" = id.toNat ∧
    ownOccurrences toAddrs cc replyTo id single "Content-Transfer-Encoding" = single.toNat ∧
    ownOccurrences toAddrs cc replyTo id single "Bcc" = 0 := by
  decide +kernel

lemma reserved_names : ∀ name ∈ "Bcc" :: onceNames,
    (name.toList.all fun c => c.toNat < 128) = true ∧ reservedHeaders.any (equalFold name) =
      (name ≠ "Message-ID" && name ≠ "Content-Transfer-Encoding") := by
  decide +kernel

lemma hasMessageID_eq (email : Email) : hasMessageID email = decide (0 < customOccurrences email "Message-ID") := by
  rw [hasMessageID, customOccurrences, AList.keys, List.keys, List.any_map]
  rw [Bool.eq_iff_iff, decide_eq_true_eq, List.countP_pos_iff, List.any_eq_true]
  rfl

end MailBaby

namespace MailBaby.Proofs

open Lib.Mime

/-- A field occurs twice exactly if the email has two identifiers of its own, or transfer encodings that
meet another one. -/
theorem headers_once_iff (env : MIMEEnv) {email : Email} {defaultFrom defaultFromName : String} {message : Text}
    (h : buildMIME env email defaultFrom defaultFromName = .ok message) :
    HeadersOnce (readHeader (lines message)).1 ↔
      customOccurrences email "Message-ID" ≤ 1 ∧
        customOccurrences email "Content-Transfer-Encoding" + (isSingle email).toNat ≤ 1 := by
  obtain ⟨-, hvalid⟩ := buildMIME_eq env email h
  obtain ⟨content, hcontent, hread⟩ := readHeader_document env email defaultFrom defaultFromName h
  obtain ⟨honce, hrequired, hid, htransfer, hbcc⟩ := ownOccurrences_table (email.toAddrs ≠ []) (email.cc ≠ [])
    (email.replyTo ≠ "") (!hasMessageID email) (isSingle email)
  have htotal : ∀ name ∈ "Bcc" :: onceNames, occurrences name (readHeader (lines message)).1 =
      ownOccurrences (email.toAddrs ≠ []) (email.cc ≠ []) (email.replyTo ≠ "") (!hasMessageID email)
          (isSingle email) name +
        if name ≠ "Message-ID" ∧ name ≠ "Content-Transfer-Encoding" then 0 else customOccurrences email name := by
    intro name hname
    obtain ⟨hall, hreserved⟩ := reserved_names name hname
    have hascii : ∀ c ∈ name.toList, c.toNat < 128 := fun c hc =>
      of_decide_eq_true (List.all_eq_true.mp hall c hc)
    rw [hread, occurrences_append, occurrences_append, occurrences_of_names name (names_standardFields ..),
      occurrences_customFields hvalid hascii, hreserved, occurrences_of_names name hcontent.names_eq,
      ownOccurrences, ownNames, List.countP_append]
    simp only [Bool.and_eq_true, decide_eq_true_eq, customOccurrences]
    omega
  have hidTotal := htotal "Message-ID" (by decide)
  have htransferTotal := htotal "Content-Transfer-Encoding" (by decide)
  rw [htransfer, if_neg (by decide), Nat.add_comm] at htransferTotal
  rw [hid, if_neg (by decide), hasMessageID_eq] at hidTotal
  -- a generated identifier is written exactly if there is no custom one
  have hidIff : occurrences "Message-ID" (readHeader (lines message)).1 = 1 ↔
      customOccurrences email "Message-ID" ≤ 1 := by
    rw [hidTotal]
    by_cases hnone : 0 < customOccurrences email "Message-ID"
    · simp only [hnone, decide_true, Bool.not_true, Bool.toNat_false]
      omega
    · simp only [hnone, decide_false, Bool.not_false, Bool.toNat_true]
      omega
  rw [← hidIff, ← htransferTotal]
  constructor
  · intro hheaders
    exact ⟨hheaders.required "Message-ID" (by decide), hheaders.once "Content-Transfer-Encoding" (by decide)⟩
  · rintro ⟨hmessageID, hencoding⟩
    refine ⟨fun name hname => ?_, fun name hname => ?_, ?_⟩
    · by_cases hspecial : name ≠ "Message-ID" ∧ name ≠ "Content-Transfer-Encoding"
      · rw [htotal name (List.mem_cons_of_mem _ hname), if_pos hspecial]
        exact honce name hname
      · rcases not_and_or.mp hspecial with hname | hname
        · rw [not_not.mp hname, hmessageID]
        · rw [not_not.mp hname]
          exact hencoding
    · have hmem : ∀ name ∈ requiredNames, name ∈ onceNames ∧ name ≠ "Content-Transfer-Encoding" := by decide
      by_cases hspecial : name = "Message-ID"
      · rw [hspecial]
        exact hmessageID
      · rw [htotal name (List.mem_cons_of_mem _ (hmem name hname).1), if_pos ⟨hspecial, (hmem name hname).2⟩]
        exact hrequired name hname hspecial
    · rw [htotal "Bcc" (by decide), if_pos (by decide)]
      exact hbcc

def headedMail (headers : List (String × String)) : Email :=
  { toAddrs := ["a@b.c"]
    textBody := "hi"
    headers := headers.foldl (fun m h => m.insert h.1 h.2) ∅ }

theorem headers_once_iff_tagged :
    ∃ message, buildMIME mimeEnv (headedMail [("X-Tag", "1"), ("subject", "other")]) "d@e.f" "" = .ok message ∧
      HeadersOnce (readHeader (lines message)).1 := by
  obtain ⟨message, hbuild⟩ : ∃ message,
      buildMIME mimeEnv (headedMail [("X-Tag", "1"), ("subject", "other")]) "d@e.f" "" = .ok message := ⟨_, rfl⟩
  exact ⟨message, hbuild, (headers_once_iff mimeEnv hbuild).mpr (by decide +kernel)⟩

/-- The transfer encoding of the email joins that of its body, and identifiers of different case pass. -/
theorem header_written_twice :
    (∃ message, buildMIME mimeEnv (headedMail [("Content-Transfer-Encoding", "8bit")]) "d@e.f" "" = .ok message ∧
      occurrences "Content-Transfer-Encoding" (readHeader (lines message)).1 = 2) ∧
    ∃ message, buildMIME mimeEnv (headedMail [("Message-ID", "<1@a>"), ("message-id", "<2@a>")]) "d@e.f" "" =
        .ok message ∧
      occurrences "Message-ID" (readHeader (lines message)).1 = 2 := by
  refine ⟨⟨_, rfl, ?_⟩, _, rfl, ?_⟩
  · decide +kernel
  · decide +kernel

end MailBaby.Proofs
