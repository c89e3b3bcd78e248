import MailBaby.Lib.DisplayNames
import MailBaby.Proofs.Headers

/-!
# The From header

The display name is written before the address as it is, if it is plain ASCII, and in encoded words
otherwise. A name in encoded words is always read back.
-/

namespace MailBaby

open Lib Lib.Mime

def needsEncoding (s : Text) : Bool := s.any fun c => 127 < c.toNat || (c.toNat < 32 && c ≠ '\t')

lemma encodeHeader_eq (s : Text) : encodeHeader s = if needsEncoding s then EncodedWord.encode s else s := by
  have hall : (s.all fun c => !(127 < c.toNat || (c.toNat < 32 && c ≠ '\t'))) = !needsEncoding s :=
    List.not_any_eq_all_not.symm
  rw [encodeHeader, hall]
  cases needsEncoding s <;> rfl

lemma ascii_of_needsEncoding {s : Text} (h : needsEncoding s = false) :
    ∀ c ∈ s, c.toNat < 128 ∧ (isSpace c = true → Address.isWSP c = true) := by
  intro c hc
  have hnot := List.any_eq_false.mp h c hc
  simp only [Bool.or_eq_true, Bool.and_eq_true, decide_eq_true_eq, not_or, not_and, not_lt, ne_eq, not_not] at hnot
  refine ⟨by omega, ?_⟩
  intro hspace
  rw [Address.isWSP_iff]
  simp only [isSpace, Bool.or_eq_true, Bool.and_eq_true, decide_eq_true_eq, beq_iff_eq] at hspace
  by_cases hcontrol : c.toNat < 32
  · exact .inr (hnot.2 hcontrol)
  · have hblank : c.toNat = 32 := by omega
    exact .inl (by rw [← Char.ofNat_toNat c, hblank])

lemma all_printable_of_needsEncoding {s : Text} (h : needsEncoding s = true) :
    (s.all fun c => (' ' ≤ c && c ≤ '~') || c = '\t') = false := by
  obtain ⟨c, hc, hneeds⟩ := List.any_eq_true.mp h
  rw [List.all_eq_false]
  refine ⟨c, hc, ?_⟩
  simp only [Bool.or_eq_true, Bool.and_eq_true, decide_eq_true_eq, Char.le_def, UInt32.le_iff_toNat_le] at hneeds ⊢
  have hval : c.val.toNat = c.toNat := rfl
  have hlow : ' '.val.toNat = 32 := rfl
  have hhigh : '~'.val.toNat = 126 := rfl
  rw [hval, hlow, hhigh]
  rintro (⟨hlo, hhi⟩ | rfl)
  · rcases hneeds with hneeds | ⟨hneeds, -⟩ <;> omega
  · simp at hneeds

lemma isBreak_of_chars {c : Char} (h : Address.isVchar c = true ∨ Address.isWSP c = true) : isBreak c = false := by
  by_contra hbreak
  rw [Bool.not_eq_false, isBreak, Bool.or_eq_true, decide_eq_true_eq, decide_eq_true_eq] at hbreak
  obtain rfl | rfl := hbreak <;> exact absurd h (by decide)

lemma isBreak_encodeHeader (s : Text) : ∀ c ∈ encodeHeader s, isBreak c = false := by
  intro c hc
  rw [encodeHeader_eq] at hc
  split_ifs at hc with hneeds
  · obtain ⟨pieces, -, -, hpieces⟩ := Address.exists_pieces (all_printable_of_needsEncoding hneeds)
    rw [hpieces] at hc
    obtain rfl | ⟨word, hword, hc⟩ := Address.mem_intercalate hc
    · decide
    · obtain ⟨piece, -, rfl⟩ := List.mem_map.mp hword
      exact isBreak_of_chars (.inl (Address.isVchar_of_isAtext ((Address.readsWord_word piece).atext c hc)))
  · by_contra hbreak
    rw [Bool.not_eq_false, isBreak, Bool.or_eq_true, decide_eq_true_eq, decide_eq_true_eq] at hbreak
    have hnot := List.any_eq_false.mp (Bool.not_eq_true _ ▸ hneeds) c hc
    obtain rfl | rfl := hbreak <;> exact hnot (by decide)

/-- The value is a list of one mailbox with this address and, up to white space around it, this name. -/
def Denotes (value : Text) (name : String) (address : Text) : Prop :=
  ∃ shown : String, Address.parseAddressList value = some [⟨utf8 shown.toList, address⟩] ∧
    trimSpace shown = trimSpace name

lemma trimSpace_intercalate {atoms : List Text} (hatoms : ∀ atom ∈ atoms, Address.IsPlainWord atom)
    (hascii : ∀ atom ∈ atoms, ∀ c ∈ atom, c.toNat < 128) :
    trimSpace (String.ofList ([' '].intercalate atoms)) = String.ofList ([' '].intercalate atoms) := by
  obtain ⟨hfirst, hlast⟩ := Address.ends_intercalate fun atom hatom => (hatoms atom hatom).ne_nil
  have hspace : ∀ c, (∃ atom ∈ atoms, c ∈ atom) → isSpace c = false := by
    rintro c ⟨atom, hatom, hc⟩
    have hlt := hascii atom hatom c hc
    have hchar := Address.isVchar_of_isAtext ((hatoms atom hatom).atext c hc)
    simp only [Address.isVchar, Bool.or_eq_true, Bool.and_eq_true, decide_eq_true_eq] at hchar
    simp only [isSpace, Bool.or_eq_false_iff, Bool.and_eq_false_iff, decide_eq_false_iff_not, beq_eq_false_iff_ne]
    omega
  refine trimSpace_eq_self ?_ ?_
  · rw [String.toList_ofList]
    exact fun c hc => hspace c (hfirst c hc)
  · rw [String.toList_ofList]
    exact fun c hc => hspace c (hlast c hc)

section Denotes

variable {source address : Text} (hsource : Address.SpecSource source address) {name : String}

include hsource

/-! ### Names that are read back -/

lemma denotes_encoded (h : needsEncoding name.toList = true) :
    Denotes (encodeHeader name.toList ++ (' ' :: '<' :: (source ++ ['>']))) name address := by
  obtain ⟨pieces, hne, hflatten, hpieces⟩ := Address.exists_pieces (all_printable_of_needsEncoding h)
  -- the words are read one by one, and those that follow each other are one word
  let decode : Text → List UInt8 × Bool := fun word => (Address.decodeWord word).getD ([], false)
  have hdecode : ∀ piece, decode (EncodedWord.word piece) = (utf8 piece, true) := by
    intro piece
    change (Address.decodeWord (EncodedWord.word piece)).getD ([], false) = _
    rw [(Address.readsWord_word piece).decode]
    rfl
  have hwords : ∀ word ∈ pieces.map EncodedWord.word, Address.ReadsWord word (decode word) := by
    intro word hword
    obtain ⟨piece, -, rfl⟩ := List.mem_map.mp hword
    rw [hdecode]
    exact Address.readsWord_word piece
  have hread : Address.parseAddressList ([] ++ ([' '].intercalate (pieces.map EncodedWord.word) ++
      ([' '] ++ '<' :: (source ++ ['>'])))) =
        some [⟨Address.joinWords ((pieces.map EncodedWord.word).map decode), address⟩] :=
    hsource.parseAddressList_words (by simpa using hne) hwords nofun (List.cons_ne_nil _ _)
      (List.all_eq_true.mp (by decide))
  refine ⟨name, ?_, rfl⟩
  rw [encodeHeader_eq, if_pos h, hpieces]
  rw [List.map_map, Function.comp_def] at hread
  simp only [hdecode, Address.joinWords_encoded, hflatten] at hread
  exact hread

lemma denotes_blank (h : needsEncoding name.toList = false) (htrim : trimSpace name = "") :
    Denotes (formatAddress name.toList source) name address := by
  refine ⟨"", ?_, htrim.symm⟩
  unfold formatAddress
  split_ifs with hempty
  · exact hsource.parseAddressList
  · have hblanks : ∀ c ∈ name.toList ++ [' '], Address.isWSP c = true := by
      obtain ⟨lead, trail, hs, hlead, htrail⟩ := exists_trimSpace name
      intro c hc
      rcases List.mem_append.mp hc with hc | hc
      · refine (ascii_of_needsEncoding h c hc).2 ?_
        rw [hs, htrim] at hc
        exact (List.mem_append.mp hc).elim (hlead c) (htrail c)
      · exact Address.isWSP_iff.mpr (.inl (List.mem_singleton.mp hc))
    have hread := hsource.parseAddressList_angle hblanks
    rw [encodeHeader_eq, h]
    rw [List.append_assoc] at hread
    exact hread

lemma denotes_plain (h : needsEncoding name.toList = false)
    (hplain : Address.isPlainPhrase (trimSpace name).toList = true) :
    Denotes (formatAddress name.toList source) name address := by
  obtain ⟨atoms, hne, hatoms, hcore⟩ := Address.isPlainPhrase_iff.mp hplain
  obtain ⟨lead, trail, hs, hlead, htrail⟩ := exists_trimSpace name
  have hascii := ascii_of_needsEncoding h
  have hmem : ∀ atom ∈ atoms, ∀ c ∈ atom, c ∈ (trimSpace name).toList := by
    intro atom hatom c hc
    rw [hcore]
    exact Address.mem_intercalate_of_mem hatom hc
  have hsome : name.toList ≠ [] := by
    obtain ⟨atom, hatom⟩ := List.exists_mem_of_ne_nil _ hne
    obtain ⟨c, hc⟩ := List.exists_mem_of_ne_nil _ (hatoms atom hatom).ne_nil
    rw [hs]
    exact List.ne_nil_of_mem (List.mem_append_right _ (List.mem_append_left _ (hmem atom hatom c hc)))
  have hblanks : ∀ c ∈ trail ++ [' '], Address.isWSP c = true := by
    intro c hc
    rcases List.mem_append.mp hc with hc | hc
    · exact (hascii c (by rw [hs]; exact List.mem_append_right _ (List.mem_append_right _ hc))).2 (htrail c hc)
    · exact Address.isWSP_iff.mpr (.inl (List.mem_singleton.mp hc))
  have hlead' : ∀ c ∈ lead, Address.isWSP c = true := fun c hc =>
    (hascii c (by rw [hs]; exact List.mem_append_left _ hc)).2 (hlead c hc)
  have hread := hsource.parseAddressList_words hne (fun word hword => (hatoms word hword).reads) hlead'
    (List.append_ne_nil_of_right_ne_nil trail (List.cons_ne_nil ' ' [])) hblanks
  refine ⟨trimSpace name, ?_, trimSpace_trimSpace name⟩
  have hjoin : Address.joinWords (atoms.map fun word => (utf8 word, false)) = utf8 (trimSpace name).toList := by
    rw [hcore]
    exact Address.joinWords_plainWords atoms
  have hvalue : formatAddress name.toList source =
      lead ++ ([' '].intercalate atoms ++ (trail ++ [' '] ++ '<' :: (source ++ ['>']))) := by
    rw [formatAddress, if_neg hsome, encodeHeader_eq, h, ← hcore]
    rw [hs]
    simp
  rw [hvalue, hread, hjoin]

/-! ### Only these names are read back -/

lemma source_unique {before before' source' address' : Text} (hsource' : Address.SpecSource source' address')
    (h : before ++ '<' :: (source ++ ['>']) = before' ++ '<' :: (source' ++ ['>'])) : before = before' := by
  have hend : before ++ '<' :: source ++ ['>'] = before' ++ '<' :: source' ++ ['>'] := by simpa using h
  have hcut := List.append_cancel_right hend
  rcases List.append_eq_append_iff.mp hcut with ⟨as, rfl, has⟩ | ⟨bs, rfl, hbs⟩
  · cases as with
    | nil => exact (List.append_nil _).symm
    | cons c as =>
      obtain ⟨rfl, hsplit⟩ := List.cons.inj has
      rw [hsplit] at hsource
      exact (hsource.not_both hsource').elim
  · cases bs with
    | nil => exact List.append_nil _
    | cons c bs =>
      obtain ⟨rfl, hsplit⟩ := List.cons.inj hbs
      rw [hsplit] at hsource'
      exact (hsource'.not_both hsource).elim

lemma plain_of_denotes (h : needsEncoding name.toList = false) (htrim : trimSpace name ≠ "")
    (hdenotes : Denotes (name.toList ++ (' ' :: '<' :: (source ++ ['>']))) name address) :
    Address.isPlainPhrase (trimSpace name).toList = true := by
  obtain ⟨shown, hparse, hshown⟩ := hdenotes
  have hascii : ∀ c ∈ name.toList, c.toNat < 128 := fun c hc => (ascii_of_needsEncoding h c hc).1
  have hlast : (name.toList ++ (' ' :: '<' :: (source ++ ['>']))).getLast? = some '>' := by
    have hend : name.toList ++ (' ' :: '<' :: (source ++ ['>'])) = name.toList ++ (' ' :: '<' :: source) ++ ['>'] := by
      simp
    rw [hend, List.getLast?_concat]
  obtain ⟨t, n, after, source', spec, earlier, ⟨lead, ht⟩, hmailboxes, hname, hopen, hspec⟩ :=
    Address.exists_angle_of_parseList hparse hlast
  obtain ⟨rfl, hone⟩ : earlier = [] ∧ (⟨utf8 shown.toList, address⟩ : Address.Mailbox) = ⟨n, spec⟩ := by
    cases earlier with
    | nil => exact ⟨rfl, List.singleton_inj.mp hmailboxes⟩
    | cons m earlier => exact absurd (congrArg List.length hmailboxes) (by simp)
  obtain ⟨hn, rfl⟩ := Address.Mailbox.mk.inj hone
  obtain ⟨blanks, hafter, hblanks⟩ := Address.exists_blanks after
  rw [hopen] at hafter
  -- what is visible of the name is visible in what was read for it
  have hink : Address.inkBytes (utf8 shown.toList) = Address.ink name.toList := by
    rw [← Address.inkBytes_trimSpace, hshown, Address.inkBytes_trimSpace, Address.inkBytes_utf8 hascii]
  have hbefore : ∀ read, t = read ++ after → name.toList ++ [' '] = lead ++ (read ++ blanks) := by
    rintro read rfl
    refine source_unique hsource hspec ?_
    rw [hafter] at ht
    simpa using ht.symm
  have hle : ∀ read, t = read ++ after → Address.ink read ≤ Address.ink name.toList := by
    intro read hread
    have hcount := congrArg Address.ink (hbefore read hread)
    rw [Address.ink_append, Address.ink_append, Address.ink_append] at hcount
    have hblank : Address.ink [' '] = 0 := rfl
    omega
  have hempty : shown.toList ≠ [] := by
    intro hnil
    rw [String.toList_eq_nil_iff.mp hnil] at hshown
    exact htrim (hshown ▸ by decide)
  cases hname with
  | none => exact absurd (Address.utf8_injective (show utf8 shown.toList = utf8 [] from hn)) hempty
  | @phrase _ _ words hphrase =>
    obtain ⟨read, hread, hshows, hplain⟩ := hphrase.showsAtMost
    have hwords : Address.inkWords words = Address.ink read := by
      have hjoin := Address.inkBytes_joinWords words
      rw [← hn, hink] at hjoin
      have := hle read hread
      omega
    obtain ⟨atoms, rfl, hatoms⟩ := hplain hwords
    rw [Address.joinWords_plainWords] at hn
    have hjoined : shown.toList = [' '].intercalate atoms := Address.utf8_injective hn
    have hne : atoms ≠ [] := by
      rintro rfl
      exact hempty hjoined
    have hplain' : ∀ atom ∈ atoms, Address.IsPlainWord atom := fun atom hatom => (hatoms atom hatom).1
    have hchars : ∀ atom ∈ atoms, ∀ c ∈ atom, c.toNat < 128 := by
      intro atom hatom c hc
      have hmem : c ∈ name.toList ++ [' '] := by
        rw [hbefore read hread]
        exact List.mem_append_right _ (List.mem_append_left _ ((hatoms atom hatom).2 c hc))
      rcases List.mem_append.mp hmem with hmem | hmem
      · exact hascii c hmem
      · rw [List.mem_singleton.mp hmem]
        decide
    refine Address.isPlainPhrase_iff.mpr ⟨atoms, hne, hplain', ?_⟩
    have htrimmed := trimSpace_intercalate hplain' hchars
    rw [← hjoined, String.ofList_toList] at htrimmed
    rw [← hshown, htrimmed, hjoined]

lemma denotes_formatAddress_iff : Denotes (formatAddress name.toList source) name address ↔
    needsEncoding name.toList = true ∨ trimSpace name = "" ∨
      Address.isPlainPhrase (trimSpace name).toList = true := by
  cases hneeds : needsEncoding name.toList with
  | true =>
    have hne : name.toList ≠ [] := by
      intro hempty
      rw [hempty] at hneeds
      cases hneeds
    rw [formatAddress, if_neg hne]
    exact iff_of_true (denotes_encoded hsource hneeds) (.inl rfl)
  | false =>
    by_cases htrim : trimSpace name = ""
    · exact iff_of_true (denotes_blank hsource hneeds htrim) (.inr (.inl htrim))
    · constructor
      · intro hdenotes
        have hne : name.toList ≠ [] := fun hempty =>
          ne_empty_of_trimSpace htrim (String.toList_eq_nil_iff.mp hempty)
        rw [formatAddress, if_neg hne, encodeHeader_eq, hneeds] at hdenotes
        exact .inr (.inr (plain_of_denotes hsource hneeds htrim hdenotes))
      · rintro (habsurd | habsurd | hplain)
        · cases habsurd
        · exact absurd habsurd htrim
        · exact denotes_plain hsource hneeds hplain

lemma sanitizeHeaderValue_formatAddress :
    sanitizeHeaderValue (formatAddress name.toList source) = formatAddress name.toList source := by
  have hvalue : hasBreak (formatAddress name.toList source) = false := by
    rw [hasBreak, List.any_eq_false]
    intro c hc
    unfold formatAddress at hc
    split_ifs at hc
    · simp [isBreak_of_chars (hsource.chars c hc)]
    · simp only [List.mem_append, List.mem_cons, List.not_mem_nil, or_false] at hc
      rcases hc with hc | rfl | rfl | hc | rfl
      · simp [isBreak_encodeHeader name.toList c hc]
      · decide
      · decide
      · simp [isBreak_of_chars (hsource.chars c hc)]
      · decide
  rw [sanitizeHeaderValue, hvalue]
  rfl

end Denotes

end MailBaby

namespace MailBaby.Proofs

open Lib Lib.Mime

/-- The From header denotes the address and the name it was written for if and only if the name is
written in encoded words, is blank, or is a phrase of plain words with one blank between them. -/
theorem from_header_denotes_iff (env : MIMEEnv) {email : Email} {defaultFrom defaultFromName : String}
    {message : Text} (h : buildMIME env email defaultFrom defaultFromName = .ok message) {address : Text}
    (haddress : Address.consumeAddrSpec (if email.sender = "" then defaultFrom else email.sender).toList =
      some (address, [])) :
    ∃ value fields, (readHeader (lines message)).1 = ⟨"From".toList, value⟩ :: fields ∧
      (Denotes value (if email.fromName = "" then defaultFromName else email.fromName) address ↔
        needsEncoding (if email.fromName = "" then defaultFromName else email.fromName).toList = true ∨
          trimSpace (if email.fromName = "" then defaultFromName else email.fromName) = "" ∨
          Address.isPlainPhrase
            (trimSpace (if email.fromName = "" then defaultFromName else email.fromName)).toList = true) := by
  obtain ⟨content, -, hread⟩ := readHeader_document env email defaultFrom defaultFromName h
  obtain ⟨source, hs, hsource⟩ := Address.consumeAddrSpec_some haddress
  rw [List.append_nil] at hs
  rw [← hs] at hsource
  refine ⟨_, _, hread, ?_⟩
  rw [sanitizeHeaderValue_formatAddress hsource]
  exact denotes_formatAddress_iff hsource

def namedEmail (name : String) : Email :=
  { sender := "jane@example.org", fromName := name, toAddrs := ["bob@example.org"], subject := "Hello" }

theorem from_header_denotes_iff_jane :
    ∃ message value fields, buildMIME mimeEnv (namedEmail "Jane Doe") "" "" = .ok message ∧
      (readHeader (lines message)).1 = ⟨"From".toList, value⟩ :: fields ∧
      Denotes value "Jane Doe" "jane@example.org".toList := by
  obtain ⟨message, hbuild⟩ : ∃ message, buildMIME mimeEnv (namedEmail "Jane Doe") "" "" = .ok message := ⟨_, rfl⟩
  have haddress : Address.consumeAddrSpec
      (if (namedEmail "Jane Doe").sender = "" then "" else (namedEmail "Jane Doe").sender).toList =
        some ("jane@example.org".toList, []) := by decide +kernel
  obtain ⟨value, fields, hread, hiff⟩ := from_header_denotes_iff mimeEnv hbuild haddress
  exact ⟨message, value, fields, hbuild, hread, hiff.mpr (.inr (.inr (by decide +kernel)))⟩

/-- A comma in the name makes the header no list of addresses. -/
theorem from_header_with_comma :
    Address.consumeAddrSpec "jane@example.org".toList = some ("jane@example.org".toList, []) ∧
      ∃ message fields, buildMIME mimeEnv (namedEmail "Doe, Jane") "" "" = .ok message ∧
        (readHeader (lines message)).1 = ⟨"From".toList, "Doe, Jane <jane@example.org>".toList⟩ :: fields ∧
        Address.parseAddressList "Doe, Jane <jane@example.org>".toList = none := by
  obtain ⟨message, hbuild⟩ : ∃ message, buildMIME mimeEnv (namedEmail "Doe, Jane") "" "" = .ok message := ⟨_, rfl⟩
  obtain ⟨content, -, hread⟩ := readHeader_document mimeEnv (namedEmail "Doe, Jane") "" "" hbuild
  have hfrom : fromField (namedEmail "Doe, Jane") "" "" =
      ⟨"From".toList, "Doe, Jane <jane@example.org>".toList⟩ := by decide +kernel
  rw [standardFields, hfrom] at hread
  exact ⟨by decide +kernel, message, _, hbuild, hread, by decide +kernel⟩

end MailBaby.Proofs
