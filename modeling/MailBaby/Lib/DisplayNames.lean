import MailBaby.Lib.AddressSyntax

/-!
# Display names in address lists

A list that ends in an angle bracket ends in an address with a display name. Where its address begins is
determined by its end, and the name is what is read before.
-/

namespace MailBaby.Lib.Address

variable {source spec word u r text : Text} {c : Char} {fuel : Nat} {decoded : List UInt8 × Bool}
  {mailboxes : List Mailbox} {bytes : List UInt8}

/-! ### The last address of a list -/

lemma SpecSource.leaves (h : SpecSource source spec) (rest : Text) : Leaves (source ++ rest) rest := by
  obtain @⟨blanks, source, localPart, blanks', domain, hblanks, hlocal, hblanks', hdomain⟩ := h
  refine ⟨_, rfl, ?_⟩
  intro hlast
  have hne : source ++ '@' :: (blanks' ++ domain) ≠ [] := List.append_ne_nil_of_right_ne_nil _ (List.cons_ne_nil _ _)
  have hdomain' : '@' :: (blanks' ++ domain) ≠ [] := List.cons_ne_nil _ _
  have htail : ('@' :: blanks' ++ domain).getLast? = domain.getLast? :=
    List.getLast?_append_of_ne_nil _ hdomain.ne_nil
  rw [List.getLast?_append_of_ne_nil _ hne, List.getLast?_append_of_ne_nil _ hdomain', ← List.cons_append,
    htail] at hlast
  exact hdomain.not_mem (by decide) (List.mem_of_getLast? hlast)

lemma Reads.leaves_or_angle {s rest : Text}
    (h : Reads (some consumeGroupList) s mailboxes rest) :
    Leaves s rest ∨ ∃ name after source spec, DisplayName s name after ∧
      skipSpace after = '<' :: (source ++ '>' :: rest) ∧ SpecSource source spec ∧ mailboxes = [⟨name, spec⟩] := by
  cases h with
  | @spec source spec after hs hspec => exact .inl (hs ▸ (hspec.leaves after).trans (leaves_skipSpace after))
  | @comment source spec after inner rest name hs hspec hopen hname =>
    have hafter := leaves_skipSpace after
    rw [hopen] at hafter
    have hinner : Leaves ('(' :: inner) rest :=
      (Leaves.cons (by decide) inner).trans (leaves_of_displayNameComment hname)
    exact .inl (hs ▸ (hspec.leaves after).trans (hafter.trans hinner))
  | @group name after inner rest mailboxes members hname hopen hsome hmembers =>
    have hafter := leaves_skipSpace after
    rw [hopen] at hafter
    have hinner : Leaves (':' :: inner) rest :=
      (Leaves.cons (by decide) inner).trans (readsMembers_of_mem members hsome inner _ rest hmembers).1
    exact .inl (hname.leaves.trans (hafter.trans hinner))
  | @angle name after source spec rest hname hopen hspec => exact .inr ⟨name, after, source, spec, hname, hopen, hspec, rfl⟩

lemma getLast?_of_suffix {s t : Text} (h : t <:+ s) (hne : t ≠ []) : t.getLast? = s.getLast? := by
  obtain ⟨before, rfl⟩ := h
  exact (List.getLast?_append_of_ne_nil _ hne).symm

lemma exists_angle_of_parseList {s : Text}
    (h : parseList fuel s = some mailboxes) (hlast : s.getLast? = some '>') :
    ∃ t name after source spec earlier, t <:+ s ∧ mailboxes = earlier ++ [⟨name, spec⟩] ∧ DisplayName t name after ∧
      skipSpace after = '<' :: (source ++ ['>']) ∧ SpecSource source spec := by
  induction fuel generalizing s mailboxes with
  | zero => cases h
  | succ fuel ih =>
    -- what holds for a later part of the text holds for all of it
    have hlater : ∀ {s' : Text} {mailboxes' earlier : List Mailbox}, s' <:+ s → s' ≠ [] →
        parseList fuel s' = some mailboxes' → mailboxes = earlier ++ mailboxes' →
        ∃ t name after source spec earlier, t <:+ s ∧ mailboxes = earlier ++ [⟨name, spec⟩] ∧
          DisplayName t name after ∧ skipSpace after = '<' :: (source ++ ['>']) ∧ SpecSource source spec := by
      intro s' mailboxes' earlier hsuffix hne hparse heq
      obtain ⟨t, name, after, source, spec, earlier', ht, hmailboxes, hrest⟩ :=
        ih hparse ((getLast?_of_suffix hsuffix hne).trans hlast)
      exact ⟨t, name, after, source, spec, earlier ++ earlier', ht.trans hsuffix,
        by rw [heq, hmailboxes, List.append_assoc], hrest⟩
    have hskip := leaves_skipSpace s
    rw [parseList] at h
    split at h
    · next rest hcomma =>
      rw [hcomma] at hskip
      have hrest := hskip.trans (.cons (by decide) rest)
      exact hlater hrest.suffix (hrest.ne_nil hlast) h (List.nil_append mailboxes).symm
    · next hcomma =>
      split at h
      · cases h
      · next mailboxes' rest haddress =>
        have hreads := reads_of_parseAddressWith haddress
        have hstart : Leaves s (skipSpace (skipSpace s)) := hskip.trans (leaves_skipSpace _)
        have hsuffix := (hreads.suffix readsMembers_of_mem).trans hstart.suffix
        split at h
        · next hend =>
          obtain rfl := Option.some.inj h
          have hblank := leaves_of_skipCFWS hend
          obtain hleaves | ⟨name, after, source, spec, hname, hopen, hspec, rfl⟩ := hreads.leaves_or_angle
          · exact absurd rfl (((hstart.trans hleaves).trans hblank).ne_nil hlast)
          · have hempty : rest = [] := by
              by_contra hne
              exact hblank.ne_nil ((getLast?_of_suffix hsuffix hne).trans hlast) rfl
            subst hempty
            exact ⟨_, name, after, source, spec, [], hstart.suffix, rfl, hname, hopen, hspec⟩
        · next next hcomma' =>
          have hnext : ',' :: next <:+ s := (leaves_of_skipCFWS hcomma').suffix.trans hsuffix
          split at h
          · next hblank =>
            -- nothing but commas and blanks is left, and so no angle bracket
            have hmem := List.mem_of_getLast? ((getLast?_of_suffix hnext (List.cons_ne_nil _ _)).trans hlast)
            rcases List.mem_cons.mp hmem with heq | hmem
            · exact absurd heq (by decide)
            · exact absurd (List.dropWhile_eq_nil_iff.mp hblank _ hmem) (by decide)
          · next hmore =>
            obtain ⟨more, hparse, rfl⟩ := Option.map_eq_some_iff.mp h
            have hdrop : next.dropWhile (fun c => c = ',' || isWSP c) <:+ s :=
              ((List.dropWhile_suffix _).trans (List.suffix_cons _ _)).trans hnext
            exact hlater hdrop hmore hparse rfl
        · cases h

/-! ### Where the address begins -/

lemma exists_of_append_eq {x y : Text} (h : x ++ y = u ++ c :: r) (hy : c ∉ y) :
    ∃ x', x = u ++ c :: x' ∧ r = x' ++ y := by
  rcases List.append_eq_append_iff.mp h with ⟨as, rfl, has⟩ | ⟨bs, rfl, hbs⟩
  · exact absurd (has ▸ List.mem_append_right _ List.mem_cons_self) hy
  · rcases List.append_eq_cons_iff.mp hbs.symm with ⟨rfl, hcons⟩ | ⟨bs', rfl, hr⟩
    · exact absurd (hcons ▸ List.mem_cons_self) hy
    · exact ⟨bs', rfl, hr⟩

lemma exists_of_append_eq' {x y : Text} (h : x ++ y = u ++ c :: r) (hx : c ∉ x) :
    ∃ u', y = u' ++ c :: r := by
  rcases List.append_eq_append_iff.mp h with ⟨as, rfl, has⟩ | ⟨bs, rfl, hbs⟩
  · exact ⟨as, has⟩
  · rcases List.append_eq_cons_iff.mp hbs.symm with ⟨rfl, hcons⟩ | ⟨bs', rfl, hr⟩
    · exact ⟨[], hcons⟩
    · exact absurd (List.mem_append_right _ List.mem_cons_self) hx

lemma quotedString_after {escaped : Bool} {content rest : Text}
    (h : quotedString escaped (u ++ '<' :: r) = some (content, rest)) (hlength : rest.length ≤ r.length) :
    ∃ content', quotedString false r = some (content', rest) := by
  induction u generalizing escaped content with
  | nil =>
    cases escaped with
    | true =>
      obtain ⟨⟨content', rest'⟩, hread, heq⟩ := Option.map_eq_some_iff.mp h
      obtain ⟨-, rfl⟩ := Prod.mk.inj heq
      exact ⟨content', hread⟩
    | false =>
      obtain ⟨⟨content', rest'⟩, hread, heq⟩ := Option.map_eq_some_iff.mp h
      obtain ⟨-, rfl⟩ := Prod.mk.inj heq
      exact ⟨content', hread⟩
  | cons c u ih =>
    cases escaped with
    | true =>
      rw [List.cons_append, quotedString] at h
      split_ifs at h
      obtain ⟨⟨content', rest'⟩, hread, heq⟩ := Option.map_eq_some_iff.mp h
      obtain ⟨-, rfl⟩ := Prod.mk.inj heq
      exact ih hread
    | false =>
      rw [List.cons_append, quotedString] at h
      by_cases hc : (isQtext c || isWSP c) = true
      · rw [if_pos hc] at h
        obtain ⟨⟨content', rest'⟩, hread, heq⟩ := Option.map_eq_some_iff.mp h
        obtain ⟨-, rfl⟩ := Prod.mk.inj heq
        exact ih hread
      · rw [if_neg hc] at h
        split_ifs at h
        · obtain ⟨-, rfl⟩ := Prod.mk.inj (Option.some.inj h)
          rw [List.length_append, List.length_cons] at hlength
          omega
        · exact ih h

lemma quotedString_blanks {blanks : Text} (h : ∀ c ∈ blanks, isWSP c = true) (rest : Text) :
    quotedString false (blanks ++ '"' :: rest) = some (blanks, rest) := by
  induction blanks with
  | nil => rfl
  | cons c blanks ih =>
    obtain ⟨hc, hblanks⟩ := List.forall_mem_cons.mp h
    rw [List.cons_append, quotedString, if_pos (by simp [hc]), ih hblanks]
    rfl

lemma not_mem_blanks {blanks : Text} (h : ∀ c ∈ blanks, isWSP c = true) (hc : isWSP c = false) :
    c ∉ blanks := by
  intro hmem
  rw [h c hmem] at hc
  cases hc

lemma SpecSource.not_both {spec' : Text} (h : SpecSource (u ++ '<' :: source) spec)
    (h' : SpecSource source spec') : False := by
  generalize hwhole : u ++ '<' :: source = whole at h
  obtain @⟨blanks, written, localPart, blanks', domain, hblanks, hlocal, hblanks', hdomain⟩ := h
  have htail : ∀ {c : Char}, isWSP c = false → isDomainChar c = false → c ≠ '@' → c ∉ '@' :: (blanks' ++ domain) := by
    intro c hwsp hchar hat
    rw [List.mem_cons, List.mem_append, not_or, not_or]
    exact ⟨hat, not_mem_blanks hblanks' hwsp, hdomain.not_mem hchar⟩
  obtain ⟨u', hu'⟩ := exists_of_append_eq' hwhole.symm (not_mem_blanks hblanks (by decide))
  obtain ⟨written', hwritten, hsource⟩ := exists_of_append_eq hu' (htail (by decide) (by decide) (by decide))
  cases hlocal with
  | atom hatom =>
    have hopen : '<' ∈ written := hwritten ▸ List.mem_append_right _ List.mem_cons_self
    exact absurd (hatom.atext _ hopen) (by decide)
  | @quoted q localPart hne hlength hread hchars =>
    -- the bracket stands between the quotes
    obtain ⟨v, hv⟩ := exists_of_append_eq' (x := ['"']) hwritten (by decide)
    obtain ⟨q', hq, hwritten'⟩ := exists_of_append_eq hv (by decide)
    subst hq hwritten'
    have hsource' : source = q' ++ '"' :: '@' :: (blanks' ++ domain) := by
      rw [hsource, List.append_assoc, List.singleton_append]
    have hread' := hread ('@' :: (blanks' ++ domain))
    rw [List.append_assoc, List.cons_append, ← hsource'] at hread'
    have hshorter : ('@' :: (blanks' ++ domain)).length ≤ source.length := by
      simp only [hsource', List.length_append, List.length_cons]
      omega
    obtain ⟨content, hafter⟩ := quotedString_after hread' hshorter
    have hquote : '"' ∉ '@' :: (blanks' ++ domain) := htail (by decide) (by decide) (by decide)
    clear hread' hread hwhole hu' hv hwritten hsource hshorter
    generalize '@' :: (blanks' ++ domain) = after at *
    obtain @⟨b, written', localPart', b', domain', hb, hlocal', hb', hdomain'⟩ := h'
    cases hlocal' with
    | atom hatom =>
      have hmem : '"' ∈ b ++ (written' ++ '@' :: (b' ++ domain')) := by
        rw [hsource']
        exact List.mem_append_right _ List.mem_cons_self
      simp only [List.mem_append, List.mem_cons] at hmem
      rcases hmem with hmem | hmem | hmem | hmem | hmem
      · exact not_mem_blanks hb (by decide) hmem
      · exact absurd (hatom.atext _ hmem) (by decide)
      · exact absurd hmem (by decide)
      · exact not_mem_blanks hb' (by decide) hmem
      · exact hdomain'.not_mem (by decide) hmem
    | @quoted p localPart' hne' hlength' hread' hchars' =>
      rw [List.cons_append, quotedString_blanks hb] at hafter
      obtain ⟨-, hafter⟩ := Prod.mk.inj (Option.some.inj hafter)
      exact hquote (hafter ▸ by simp)

/-! ### Visible characters -/

def ink (s : Text) : Nat := s.countP fun c => 0x20 < c.toNat

def inkBytes (bytes : List UInt8) : Nat := bytes.countP fun b => 0x20 < b && b < 0x80

lemma ink_append (s t : Text) : ink (s ++ t) = ink s + ink t := List.countP_append

lemma ink_cons (c : Char) (s : Text) : ink (c :: s) = ink s + if 0x20 < c.toNat then 1 else 0 := by
  simp [ink, List.countP_cons]

lemma inkBytes_append (bytes bytes' : List UInt8) : inkBytes (bytes ++ bytes') = inkBytes bytes + inkBytes bytes' :=
  List.countP_append

lemma ink_of_forall {s : Text} (h : ∀ c ∈ s, isVchar c = true) : ink s = s.length := by
  rw [ink, List.countP_eq_length]
  intro c hc
  have hchar := h c hc
  simp only [isVchar, Bool.or_eq_true, Bool.and_eq_true, decide_eq_true_eq] at hchar
  exact decide_eq_true (by omega)

lemma isVchar_of_isAtext (h : isAtext c = true) : isVchar c = true := (Bool.and_eq_true_iff.mp h).2

lemma inkBytes_utf8EncodeChar_of_le (h : 128 ≤ c.toNat) : inkBytes (String.utf8EncodeChar c) = 0 := by
  have hbyte : ∀ {n : Nat}, 128 ≤ n → n < 256 → ¬(0x20 < UInt8.ofNat n && UInt8.ofNat n < 0x80) = true := by
    intro n hlo hhi hink
    have hlt := UInt8.lt_iff_toNat_lt.mp (of_decide_eq_true (Bool.and_eq_true_iff.mp hink).2)
    rw [toNat_byte hhi] at hlt
    exact absurd hlt (by simpa using hlo)
  have hval : c.toNat = c.val.toNat := rfl
  rw [inkBytes, List.countP_eq_zero]
  intro b hb
  unfold String.utf8EncodeChar at hb
  dsimp only at hb
  split_ifs at hb with h₁ h₂ h₃
  · omega
  all_goals
    simp only [List.mem_cons, List.not_mem_nil, or_false] at hb
  · obtain rfl | rfl := hb <;> exact hbyte (by omega) (by omega)
  · obtain rfl | rfl | rfl := hb <;> exact hbyte (by omega) (by omega)
  · obtain rfl | rfl | rfl | rfl := hb <;> exact hbyte (by omega) (by omega)

lemma inkBytes_utf8EncodeChar (c : Char) (h : c.toNat < 128) :
    inkBytes (String.utf8EncodeChar c) = if 0x20 < c.toNat then 1 else 0 := by
  revert h
  refine char_induction (P := fun c => c.toNat < 128 →
    inkBytes (String.utf8EncodeChar c) = if 0x20 < c.toNat then 1 else 0) (by decide +kernel) ?_ c
  intro c hle hlt
  omega

lemma inkBytes_utf8_cons (c : Char) (s : Text) :
    inkBytes (utf8 (c :: s)) = inkBytes (String.utf8EncodeChar c) + inkBytes (utf8 s) := inkBytes_append _ _

lemma inkBytes_utf8_le (s : Text) : inkBytes (utf8 s) ≤ ink s := by
  induction s with
  | nil => exact Nat.le_refl _
  | cons c s ih =>
    rw [inkBytes_utf8_cons, ink_cons]
    by_cases hc : c.toNat < 128
    · rw [inkBytes_utf8EncodeChar c hc]
      omega
    · rw [inkBytes_utf8EncodeChar_of_le (Nat.le_of_not_lt hc)]
      omega

lemma inkBytes_utf8 {s : Text} (h : ∀ c ∈ s, c.toNat < 128) : inkBytes (utf8 s) = ink s := by
  induction s with
  | nil => rfl
  | cons c s ih =>
    obtain ⟨hc, hs⟩ := List.forall_mem_cons.mp h
    rw [inkBytes_utf8_cons, ink_cons, inkBytes_utf8EncodeChar c hc, ih hs]
    omega

/-! ### What is visible of a display name -/

lemma inkBytes_flatMap_le {f : UInt8 → List UInt8} (hf : ∀ b, inkBytes (f b) ≤ inkBytes [b]) (bytes : List UInt8) :
    inkBytes (bytes.flatMap f) ≤ inkBytes bytes := by
  induction bytes with
  | nil => exact Nat.le_refl _
  | cons b bytes ih =>
    have hcons : inkBytes (b :: bytes) = inkBytes [b] + inkBytes bytes := inkBytes_append [b] bytes
    rw [List.flatMap_cons, inkBytes_append, hcons]
    exact Nat.add_le_add (hf b) ih

lemma inkBytes_convert_le {charset : Text} {content : List UInt8} (h : convert charset content = some bytes) :
    inkBytes bytes ≤ inkBytes content := by
  have hlatin : ∀ k : Fin 256, inkBytes (String.utf8EncodeChar (Char.ofNat (UInt8.ofNat k.val).toNat)) ≤
      inkBytes [UInt8.ofNat k.val] := by decide +kernel
  have hascii : ∀ k : Fin 256, inkBytes (if UInt8.ofNat k.val < 0x80 then [UInt8.ofNat k.val] else
      String.utf8EncodeChar replacementChar) ≤ inkBytes [UInt8.ofNat k.val] := by decide +kernel
  unfold convert at h
  split_ifs at h
  · exact (Option.some.inj h ▸ Nat.le_refl _)
  · obtain rfl := Option.some.inj h
    refine inkBytes_flatMap_le (fun b => ?_) content
    have hb := hlatin ⟨b.toNat, b.toNat_lt⟩
    rwa [UInt8.ofNat_toNat] at hb
  · obtain rfl := Option.some.inj h
    refine inkBytes_flatMap_le (fun b => ?_) content
    have hb := hascii ⟨b.toNat, b.toNat_lt⟩
    rwa [UInt8.ofNat_toNat] at hb

lemma length_qDecode_le (h : qDecode text = some bytes) :
    bytes.length ≤ text.length := by
  fun_induction qDecode text generalizing bytes with
  | case1 => simp_all
  | case2 s ih =>
    obtain ⟨bytes', hread, rfl⟩ := Option.map_eq_some_iff.mp h
    exact Nat.succ_le_succ (ih hread)
  | case3 a b s ih =>
    simp only [Option.bind_eq_bind, Option.bind_eq_some_iff, Option.some.injEq] at h
    obtain ⟨_, -, _, -, bytes', hread, rfl⟩ := h
    have hlength := ih hread
    simp only [List.length_cons]
    omega
  | case4 => cases h
  | case5 c s _ _ _ hc ih =>
    obtain ⟨bytes', hread, rfl⟩ := Option.map_eq_some_iff.mp h
    exact Nat.succ_le_succ (ih hread)
  | case6 => cases h

lemma length_decodeContent_le {encoding : Text}
    (h : decodeContent encoding text = some bytes) : bytes.length ≤ text.length := by
  unfold decodeContent at h
  split_ifs at h
  · exact Base64.length_decode_le h
  · exact length_qDecode_le h

lemma length_encodedContent_lt {charset : Text} {content : List UInt8}
    (h : encodedContent word = some (charset, content)) : content.length < word.length := by
  unfold encodedContent at h
  split_ifs at h with hform
  split at h
  · next charset' encoding text hsplit =>
    split_ifs at h
    obtain ⟨content', hdecode, heq⟩ := Option.map_eq_some_iff.mp h
    obtain ⟨rfl, rfl⟩ := Prod.mk.inj heq
    have hle := length_decodeContent_le hdecode
    have hjoin : ['?'].intercalate [charset', encoding, text] = (word.drop 2).take (word.length - 4) := by
      rw [← hsplit]
      exact List.intercalate_splitOn '?'
    have hlength := congrArg List.length hjoin
    rw [List.intercalate_cons_cons, List.intercalate_cons_cons, List.intercalate_singleton] at hlength
    simp only [List.length_append, List.length_cons, List.length_nil, List.length_take, List.length_drop] at hlength
    omega
  · cases h

/-- A word that stands for itself in a display name. -/
structure IsPlainWord (word : Text) : Prop where
  ne_nil : word ≠ []
  atext : ∀ c ∈ word, isAtext c = true
  decode : decodeWord word = some (utf8 word, false)

lemma ink_decodeWord (hne : word ≠ [])
    (hatext : ∀ c ∈ word, isAtext c = true) (h : decodeWord word = some decoded) :
    inkBytes decoded.1 < ink word ∨ inkBytes decoded.1 ≤ ink word ∧ decoded = (utf8 word, false) ∧ IsPlainWord word := by
  have hink : ink word = word.length := ink_of_forall fun c hc => isVchar_of_isAtext (hatext c hc)
  have hplain := h
  unfold decodeWord at h
  split at h
  · obtain rfl := Option.some.inj h
    exact .inr ⟨inkBytes_utf8_le word, rfl, hne, hatext, hplain⟩
  · next charset content hencoded =>
    obtain ⟨bytes, hconvert, rfl⟩ := Option.map_eq_some_iff.mp h
    have hle := inkBytes_convert_le hconvert
    have hlength : inkBytes content ≤ content.length := List.countP_le_length
    have hlt := length_encodedContent_lt hencoded
    left
    dsimp only
    omega

def inkWords (words : List (List UInt8 × Bool)) : Nat := words.foldr (fun word n => inkBytes word.1 + n) 0

lemma inkBytes_joinWords (words : List (List UInt8 × Bool)) : inkBytes (joinWords words) = inkWords words := by
  fun_induction joinWords words with
  | case1 => rfl
  | case2 word => rfl
  | case3 word next words ih =>
    have hblank : inkBytes (if (word.2 && next.2) = true then [] else [(0x20 : UInt8)]) = 0 := by
      split_ifs <;> decide
    rw [inkBytes_append, inkBytes_append, hblank, ih]
    simp [inkWords]

def plainWords (atoms : List Text) : List (List UInt8 × Bool) := atoms.map fun atom => (utf8 atom, false)

/-- The words show at most what is read for them, and exactly that only if they are plain. -/
def ShowsAtMost (s : Text) (words : List (List UInt8 × Bool)) (rest : Text) : Prop :=
  ∃ read, s = read ++ rest ∧ inkWords words ≤ ink read ∧
    (inkWords words = ink read →
      ∃ atoms, words = plainWords atoms ∧ ∀ atom ∈ atoms, IsPlainWord atom ∧ ∀ c ∈ atom, c ∈ read)

namespace ShowsAtMost

variable {s rest : Text} {words : List (List UInt8 × Bool)}

lemma nil (s : Text) : ShowsAtMost s [] s := ⟨[], rfl, Nat.le_refl _, fun _ => ⟨[], rfl, nofun⟩⟩

lemma skip (before : Text) (h : ShowsAtMost s words rest) : ShowsAtMost (before ++ s) words rest := by
  obtain ⟨read, rfl, hle, hplain⟩ := h
  refine ⟨before ++ read, (List.append_assoc _ _ _).symm, ?_, ?_⟩
  · rw [ink_append]
    omega
  · intro heq
    rw [ink_append] at heq
    obtain ⟨atoms, hwords, hatoms⟩ := hplain (by omega)
    refine ⟨atoms, hwords, fun atom hatom => ⟨(hatoms atom hatom).1, fun c hc => ?_⟩⟩
    exact List.mem_append_right _ ((hatoms atom hatom).2 c hc)

lemma cons {word : List UInt8 × Bool} (h : ShowsAtMost s words rest)
    (hword : inkBytes word.1 < ink source ∨
      inkBytes word.1 ≤ ink source ∧ word = (utf8 source, false) ∧ IsPlainWord source) :
    ShowsAtMost (source ++ s) (word :: words) rest := by
  obtain ⟨read, rfl, hle, hplain⟩ := h
  have hcons : inkWords (word :: words) = inkBytes word.1 + inkWords words := rfl
  refine ⟨source ++ read, (List.append_assoc _ _ _).symm, ?_, ?_⟩
  · rw [ink_append, hcons]
    omega
  · intro heq
    rw [ink_append, hcons] at heq
    obtain hlt | ⟨-, rfl, hsource⟩ := hword
    · omega
    · have hink := inkBytes_utf8_le source
      dsimp only at heq
      obtain ⟨atoms, rfl, hatoms⟩ := hplain (by omega)
      refine ⟨source :: atoms, rfl, List.forall_mem_cons.mpr ⟨?_, ?_⟩⟩
      · exact ⟨hsource, fun c hc => List.mem_append_left _ hc⟩
      · exact fun atom hatom => ⟨(hatoms atom hatom).1, fun c hc =>
          List.mem_append_right _ ((hatoms atom hatom).2 c hc)⟩

end ShowsAtMost

lemma PhraseReads.showsAtMost {s rest : Text} {words : List (List UInt8 × Bool)} (h : PhraseReads s words rest) :
    ShowsAtMost s words rest := by
  induction h with
  | done s => exact .nil s
  | @skip s t rest words hskip hrest ih =>
    obtain ⟨before, rfl, -⟩ := leaves_of_skipCFWS hskip
    exact ih.skip before
  | @blanks s rest words hrest ih =>
    obtain ⟨blanks, hs, -⟩ := exists_blanks s
    rw [hs]
    exact ih.skip blanks
  | @quoted s t content rest words hquoted hrest ih =>
    -- the quotes are lost
    obtain ⟨source, rfl, hsub, -, -⟩ := quotedString_some hquoted
    have hink : inkBytes (utf8 content) < ink ('"' :: (source ++ ['"'])) := by
      have hle := inkBytes_utf8_le content
      have hcontent : ink content ≤ ink source := hsub.countP_le
      rw [ink_cons, ink_append, if_pos (by decide)]
      omega
    have hsource : '"' :: (source ++ '"' :: t) = '"' :: (source ++ ['"']) ++ t := by simp
    rw [hsource]
    exact ih.cons (.inl hink)
  | @atom s t atom rest word words hatom hword hrest ih =>
    obtain ⟨rfl, hne, hatext, -⟩ := consumeAtom_some hatom
    exact ih.cons (ink_decodeWord hne hatext hword)
  | @unknown s t atom hatom =>
    obtain ⟨rfl, -, -, -⟩ := consumeAtom_some hatom
    exact (ShowsAtMost.nil t).skip atom

/-! ### Reading what was written -/

lemma skipCFWS_append {blanks s : Text} (hblanks : ∀ c ∈ blanks, isWSP c = true)
    (hs : ∀ c ∈ s.head?, isWSP c = false ∧ c ≠ '(') : skipCFWS (blanks ++ s) = some s := by
  unfold skipCFWS
  induction blanks with
  | nil =>
    cases s with
    | nil => rfl
    | cons c s =>
      obtain ⟨hblank, hopen⟩ := hs c rfl
      rw [List.nil_append, skipComments, if_neg (by simp [hblank]), if_neg hopen]
  | cons c blanks ih =>
    obtain ⟨hc, hblanks⟩ := List.forall_mem_cons.mp hblanks
    rw [List.cons_append, skipComments, if_pos hc]
    exact ih hblanks

/-- A word of a phrase and what is read from it. -/
structure ReadsWord (word : Text) (decoded : List UInt8 × Bool) : Prop where
  ne_nil : word ≠ []
  atext : ∀ c ∈ word, isAtext c = true
  decode : decodeWord word = some decoded

lemma ReadsWord.exists_cons (h : ReadsWord word decoded) :
    ∃ c rest, word = c :: rest ∧ isAtext c = true := by
  obtain ⟨c, rest, rfl⟩ := List.exists_cons_of_ne_nil h.ne_nil
  exact ⟨c, rest, rfl, h.atext c List.mem_cons_self⟩

lemma ne_of_isAtext {d : Char} (hc : isAtext c = true) (hd : isAtext d = false) : c ≠ d := by
  rintro rfl
  rw [hc] at hd
  cases hd

lemma phraseWords_word (first : Bool) {s rest : Text}
    (h : ReadsWord word decoded) (hskip : (if first then some s else skipCFWS s) = some (word ++ rest))
    (hrest : ∀ c ∈ rest.head?, isAtext c = false) :
    phraseWords (fuel + 1) first s =
      (phraseWords fuel false rest).map fun (words, rest) => (decoded :: words, rest) := by
  have hatom : consumeAtom true (word ++ rest) = some (word, rest) :=
    consumeAtom_append h.ne_nil h.atext nofun hrest
  obtain ⟨c, word, rfl, hc⟩ := h.exists_cons
  have hspace : skipSpace (c :: word ++ rest) = c :: word ++ rest :=
    skipSpace_of_head (by rintro _ ⟨⟩; exact isWSP_of_isAtext hc)
  rw [phraseWords, hskip]
  dsimp only
  rw [hspace]
  split
  · next hnil => cases hnil
  · next hquote => exact absurd (List.cons.inj hquote).1 (ne_of_isAtext hc (by decide))
  · rw [hatom]
    dsimp only
    rw [h.decode]

lemma phraseWords_angle {blanks rest : Text} (hblanks : ∀ c ∈ blanks, isWSP c = true) :
    phraseWords (fuel + 1) false (blanks ++ '<' :: rest) = some ([], '<' :: rest) := by
  have hskip : skipCFWS (blanks ++ '<' :: rest) = some ('<' :: rest) :=
    skipCFWS_append hblanks (by rintro _ ⟨⟩; decide)
  rw [phraseWords, if_neg Bool.false_ne_true, hskip]
  rfl

def laterWords (words : List Text) : Text := words.flatMap fun word => ' ' :: word

lemma intercalate_eq_laterWords (word : Text) (words : List Text) :
    [' '].intercalate (word :: words) = word ++ laterWords words := by
  induction words generalizing word with
  | nil => rw [List.intercalate_singleton]; exact (List.append_nil _).symm
  | cons next words ih =>
    rw [List.intercalate_cons_cons, ih, List.append_assoc]
    rfl

lemma length_le_laterWords (words : List Text) : words.length ≤ (laterWords words).length := by
  induction words with
  | nil => exact Nat.le_refl _
  | cons word words ih =>
    have hcons : laterWords (word :: words) = ' ' :: word ++ laterWords words := rfl
    rw [hcons, List.length_append, List.length_cons, List.length_cons]
    omega

lemma head_laterWords (words : List Text) {blanks : Text} (hne : blanks ≠ []) (hblanks : ∀ c ∈ blanks, isWSP c = true)
    (rest : Text) : ∀ c ∈ (laterWords words ++ (blanks ++ rest)).head?, isAtext c = false := by
  cases words with
  | nil =>
    obtain ⟨b, blanks, rfl⟩ := List.exists_cons_of_ne_nil hne
    rintro c ⟨⟩
    exact isAtext_of_isWSP (hblanks b List.mem_cons_self)
  | cons word words =>
    rintro c ⟨⟩
    decide

section Phrase

variable {decode : Text → List UInt8 × Bool} {blanks rest : Text} (hne : blanks ≠ [])
  (hblanks : ∀ c ∈ blanks, isWSP c = true)

include hne hblanks

lemma phraseWords_laterWords {words : List Text} (hwords : ∀ word ∈ words, ReadsWord word (decode word))
    (hfuel : words.length < fuel) :
    phraseWords fuel false (laterWords words ++ (blanks ++ '<' :: rest)) = some (words.map decode, '<' :: rest) := by
  obtain ⟨fuel, rfl⟩ := Nat.exists_eq_add_one.mpr (Nat.zero_lt_of_lt hfuel)
  induction words generalizing fuel with
  | nil => exact phraseWords_angle hblanks
  | cons word words ih =>
    obtain ⟨hword, hwords⟩ := List.forall_mem_cons.mp hwords
    obtain ⟨c, tail, hcons, hc⟩ := hword.exists_cons
    have hsplit : laterWords (word :: words) ++ (blanks ++ '<' :: rest) =
        [' '] ++ (word ++ (laterWords words ++ (blanks ++ '<' :: rest))) := by
      simp [laterWords]
    have hskip : skipCFWS ([' '] ++ (word ++ (laterWords words ++ (blanks ++ '<' :: rest)))) =
        some (word ++ (laterWords words ++ (blanks ++ '<' :: rest))) := by
      refine skipCFWS_append (List.all_eq_true.mp (by decide)) ?_
      rw [hcons]
      rintro _ ⟨⟩
      exact ⟨isWSP_of_isAtext hc, ne_of_isAtext hc (by decide)⟩
    rw [List.length_cons] at hfuel
    obtain ⟨fuel, rfl⟩ := Nat.exists_eq_add_one.mpr (show 0 < fuel by omega)
    rw [hsplit, phraseWords_word false hword hskip (head_laterWords words hne hblanks _), ih hwords fuel (by omega)]
    rfl

lemma consumePhrase_words {words : List Text} (hwords : ∀ w ∈ word :: words, ReadsWord w (decode w)) :
    consumePhrase (word ++ (laterWords words ++ (blanks ++ '<' :: rest))) =
      some (joinWords ((word :: words).map decode), '<' :: rest) := by
  obtain ⟨hword, hwords⟩ := List.forall_mem_cons.mp hwords
  have hlength : words.length + 1 < (word ++ (laterWords words ++ (blanks ++ '<' :: rest))).length := by
    have hle := length_le_laterWords words
    have hpos := List.length_pos_iff.mpr hword.ne_nil
    simp only [List.length_append, List.length_cons]
    omega
  unfold consumePhrase
  generalize (word ++ (laterWords words ++ (blanks ++ '<' :: rest))).length = fuel at hlength
  obtain ⟨fuel, rfl⟩ := Nat.exists_eq_add_one.mpr (show 0 < fuel by omega)
  rw [phraseWords_word true hword rfl (head_laterWords words hne hblanks _),
    phraseWords_laterWords hne hblanks hwords (by omega)]
  rfl

lemma consumeAddrSpec_words (hword : ReadsWord word decoded)
    (words : List Text) : consumeAddrSpec (word ++ (laterWords words ++ (blanks ++ rest))) = none := by
  have hhead := head_laterWords words hne hblanks rest
  have hnext : ∀ tail, laterWords words ++ (blanks ++ rest) ≠ '@' :: tail := by
    intro tail heq
    cases words with
    | nil =>
      obtain ⟨b, blanks, rfl⟩ := List.exists_cons_of_ne_nil hne
      have hb := hblanks b List.mem_cons_self
      rw [(List.cons.inj heq).1] at hb
      exact absurd hb (by decide)
    | cons word words => exact absurd (List.cons.inj heq).1 (by decide)
  generalize laterWords words ++ (blanks ++ rest) = after at *
  obtain ⟨c, tail, hcons, hc⟩ := hword.exists_cons
  have hspace : skipSpace (word ++ after) = word ++ after := by
    rw [hcons]
    exact skipSpace_of_head (by rintro _ ⟨⟩; exact isWSP_of_isAtext hc)
  have hlocal : consumeLocalPart (word ++ after) = consumeAtom false (word ++ after) := by
    rw [hcons, List.cons_append, consumeLocalPart]
    simpa using ne_of_isAtext hc (by decide)
  rw [consumeAddrSpec, hspace, hlocal]
  split
  · next localPart tail hatom =>
    obtain ⟨hsplit, -, hatext, -⟩ := consumeAtom_some hatom
    have hat : ∀ c ∈ ('@' :: tail).head?, isAtext c = false := by
      rintro _ ⟨⟩
      decide
    have hsame : word = localPart := by
      rw [← (span_atom hword.atext hhead).1, hsplit, (span_atom hatext hat).1]
    rw [hsame] at hsplit
    exact absurd (List.append_cancel_left hsplit) (hnext tail)
  · rfl

end Phrase

/-! ### Lists of one address -/

lemma parseAddressList_append {blanks s : Text} {t : Text}
    (hblanks : ∀ c ∈ blanks, isWSP c = true) (hs : s = c :: t) (hc : isWSP c = false) (hcomma : c ≠ ',')
    (h : parseAddress s = some (mailboxes, [])) : parseAddressList (blanks ++ s) = some mailboxes := by
  have hskip : skipSpace (blanks ++ s) = c :: t := by
    rw [skipSpace_append hblanks, hs]
    exact skipSpace_of_head (by rintro _ ⟨⟩; exact hc)
  rw [hs] at h
  rw [parseAddressList, parseList, hskip]
  split
  · next hhead => exact absurd (List.cons.inj hhead).1 hcomma
  · rw [h]
    rfl

lemma SpecSource.consume_angle (h : SpecSource source spec) :
    consumeAddrSpec (source ++ ['>']) = some (spec, ['>']) :=
  h.consume (by rintro _ ⟨⟩; decide)

lemma SpecSource.parseAddress_angle (h : SpecSource source spec) :
    Address.parseAddress ('<' :: (source ++ ['>'])) = some ([⟨[], spec⟩], []) := by
  have hnone : consumeAddrSpec ('<' :: (source ++ ['>'])) = none := rfl
  have hskip : skipSpace ('<' :: (source ++ ['>'])) = '<' :: (source ++ ['>']) := rfl
  rw [Address.parseAddress, parseAddressWith, hskip]
  simp only [hnone, List.head?_cons, if_true, hskip, h.consume_angle]

lemma SpecSource.parseAddress_words {blanks : Text} {words : List Text}
    {decode : Text → List UInt8 × Bool} (h : SpecSource source spec)
    (hwords : ∀ w ∈ word :: words, ReadsWord w (decode w)) (hne : blanks ≠ [])
    (hblanks : ∀ c ∈ blanks, isWSP c = true) :
    Address.parseAddress (word ++ (laterWords words ++ (blanks ++ '<' :: (source ++ ['>'])))) =
      some ([⟨joinWords ((word :: words).map decode), spec⟩], []) := by
  have hword := hwords word List.mem_cons_self
  have hnone : consumeAddrSpec (word ++ (laterWords words ++ (blanks ++ '<' :: (source ++ ['>'])))) = none :=
    consumeAddrSpec_words hne hblanks hword words
  have hphrase : consumePhrase (word ++ (laterWords words ++ (blanks ++ '<' :: (source ++ ['>'])))) =
      some (joinWords ((word :: words).map decode), '<' :: (source ++ ['>'])) := consumePhrase_words hne hblanks hwords
  obtain ⟨c, tail, rfl, hc⟩ := hword.exists_cons
  rw [List.cons_append] at hnone hphrase ⊢
  have hskip : ∀ rest, skipSpace (c :: rest) = c :: rest := fun rest =>
    skipSpace_of_head (by rintro _ ⟨⟩; exact isWSP_of_isAtext hc)
  have hangle : skipSpace ('<' :: (source ++ ['>'])) = '<' :: (source ++ ['>']) := rfl
  have hhead : c ≠ '<' := ne_of_isAtext hc (by decide)
  rw [Address.parseAddress, parseAddressWith, hskip]
  simp only [hnone, List.head?_cons, Option.some.injEq, hhead, if_false, hphrase, hangle, h.consume_angle]

theorem SpecSource.parseAddressList (h : SpecSource source spec) :
    Address.parseAddressList source = some [⟨[], spec⟩] := by
  obtain @⟨blanks, written, localPart, blanks', domain, hblanks, hlocal, hblanks', hdomain⟩ := h
  have hnone : ∀ c ∈ ([] : Text), isWSP c = true := nofun
  have hparse := (SpecSource.mk hnone hlocal hblanks' hdomain).parseAddress
  have hhead := hlocal.head ('@' :: (blanks' ++ domain))
  obtain ⟨c, t, hcons, hcomma⟩ : ∃ c t, written = c :: t ∧ c ≠ ',' := by
    cases hlocal with
    | atom hatom =>
      obtain ⟨c, t, rfl⟩ := List.exists_cons_of_ne_nil hatom.ne_nil
      exact ⟨c, t, rfl, ne_of_isAtext (hatom.atext c List.mem_cons_self) (by decide)⟩
    | quoted => exact ⟨_, _, rfl, by decide⟩
  subst hcons
  exact parseAddressList_append hblanks rfl (hhead c rfl) hcomma hparse

theorem SpecSource.parseAddressList_angle {blanks : Text} (h : SpecSource source spec)
    (hblanks : ∀ c ∈ blanks, isWSP c = true) :
    Address.parseAddressList (blanks ++ '<' :: (source ++ ['>'])) = some [⟨[], spec⟩] :=
  parseAddressList_append hblanks rfl (by decide) (by decide) h.parseAddress_angle

theorem SpecSource.parseAddressList_words {lead blanks : Text} {words : List Text}
    {decode : Text → List UInt8 × Bool} (h : SpecSource source spec) (hsome : words ≠ [])
    (hwords : ∀ w ∈ words, ReadsWord w (decode w)) (hlead : ∀ c ∈ lead, isWSP c = true) (hne : blanks ≠ [])
    (hblanks : ∀ c ∈ blanks, isWSP c = true) :
    Address.parseAddressList (lead ++ ([' '].intercalate words ++ (blanks ++ '<' :: (source ++ ['>'])))) =
      some [⟨joinWords (words.map decode), spec⟩] := by
  obtain ⟨word, words, rfl⟩ := List.exists_cons_of_ne_nil hsome
  have hparse := h.parseAddress_words hwords hne hblanks
  obtain ⟨c, tail, hcons, hc⟩ := (hwords word List.mem_cons_self).exists_cons
  rw [intercalate_eq_laterWords, List.append_assoc]
  subst hcons
  exact parseAddressList_append hlead rfl (isWSP_of_isAtext hc) (ne_of_isAtext hc (by decide)) hparse

/-! ### Plain and encoded names -/

lemma utf8_append (s t : Text) : utf8 (s ++ t) = utf8 s ++ utf8 t := List.flatMap_append

lemma utf8_injective : Function.Injective utf8 := by
  intro s t h
  rw [← runes_utf8 s, h, runes_utf8]

lemma joinWords_plainWords (atoms : List Text) : joinWords (plainWords atoms) = utf8 ([' '].intercalate atoms) := by
  induction atoms with
  | nil => rfl
  | cons atom atoms ih =>
    cases atoms with
    | nil =>
      rw [List.intercalate_singleton]
      rfl
    | cons next atoms =>
      rw [List.intercalate_cons_cons, List.append_assoc, utf8_append, utf8_append, ← ih]
      rfl

lemma joinWords_encoded (pieces : List Text) :
    joinWords (pieces.map fun piece => (utf8 piece, true)) = utf8 pieces.flatten := by
  induction pieces with
  | nil => rfl
  | cons piece pieces ih =>
    cases pieces with
    | nil =>
      rw [List.flatten_singleton]
      rfl
    | cons next pieces =>
      rw [List.flatten_cons, utf8_append, ← ih]
      rfl

lemma isAtext_digit (n : Nat) : isAtext (Base64.digit n) = true ∧ Base64.digit n ≠ '?' :=
  Base64.digit_induction (P := fun c => isAtext c = true ∧ c ≠ '?') (by decide +kernel) n

lemma mem_base64 {data : List UInt8} (h : c ∈ Base64.encode data) : isAtext c = true ∧ c ≠ '?' := by
  obtain rfl | ⟨n, rfl⟩ := Base64.mem_encode h
  · decide
  · exact isAtext_digit n

lemma length_le_utf8 (s : Text) : s.length ≤ (utf8 s).length := by
  have hle := length_runes_le (utf8 s)
  rwa [runes_utf8] at hle

lemma encodedContent_word (text : Text) :
    encodedContent (EncodedWord.word text) = some ("UTF-8".toList, utf8 text) := by
  have hbase : ∀ c ∈ Base64.encode (utf8 text), isAtext c = true ∧ c ≠ '?' := fun c hc => mem_base64 hc
  have hdecode : decodeContent ['b'] (Base64.encode (utf8 text)) = some (utf8 text) := Base64.decode_encode _
  rw [EncodedWord.word]
  generalize Base64.encode (utf8 text) = base at hbase hdecode
  have hquestion : '?' ∉ base := fun hmem => (hbase _ hmem).2 rfl
  have hlength : (EncodedWord.opening ++ (base ++ ['?', '='])).length = base.length + 12 := by
    rw [List.length_append, List.length_append]
    change 10 + (base.length + 2) = _
    omega
  have hlong : ¬(utf8 (EncodedWord.opening ++ (base ++ ['?', '=']))).length < 8 := by
    have hle := length_le_utf8 (EncodedWord.opening ++ (base ++ ['?', '=']))
    omega
  have hbegin : ['=', '?'].isPrefixOf (EncodedWord.opening ++ (base ++ ['?', '='])) = true := rfl
  have hend : ['?', '='].isSuffixOf (EncodedWord.opening ++ (base ++ ['?', '='])) = true := by
    rw [List.isSuffixOf_iff_suffix, ← List.append_assoc]
    exact List.suffix_append _ _
  have hcount : (EncodedWord.opening ++ (base ++ ['?', '='])).count '?' = 4 := by
    rw [List.count_append, List.count_append, List.count_eq_zero_of_not_mem hquestion]
    rfl
  have hmiddle : ((EncodedWord.opening ++ (base ++ ['?', '='])).drop 2).take (base.length + 12 - 4) =
      ['?'].intercalate ["UTF-8".toList, ['b'], base] := by
    have hdrop : (EncodedWord.opening ++ (base ++ ['?', '='])).drop 2 = "UTF-8?b?".toList ++ base ++ ['?', '='] := by
      rw [List.append_assoc]
      rfl
    rw [hdrop, List.take_left' (by rw [List.length_append]; change 8 + base.length = _; omega),
      List.intercalate_cons_cons, List.intercalate_cons_cons, List.intercalate_singleton]
    rfl
  have hpieces : (['?'].intercalate ["UTF-8".toList, ['b'], base]).splitOn '?' = ["UTF-8".toList, ['b'], base] := by
    refine List.splitOn_intercalate '?' ?_ (List.cons_ne_nil _ _)
    intro piece hpiece
    simp only [List.mem_cons, List.not_mem_nil, or_false] at hpiece
    obtain rfl | rfl | rfl := hpiece
    · decide
    · decide
    · exact hquestion
  rw [encodedContent, if_neg (by simp [hlong, hbegin, hend, hcount]), hlength, hmiddle, hpieces]
  simp only [hdecode]
  rfl

lemma readsWord_word (text : Text) : ReadsWord (EncodedWord.word text) (utf8 text, true) := by
  have hopening : ∀ c ∈ EncodedWord.opening, isAtext c = true := List.all_eq_true.mp (by decide)
  have hclosing : ∀ c ∈ ['?', '='], isAtext c = true := List.all_eq_true.mp (by decide)
  refine ⟨List.cons_ne_nil _ _, ?_, ?_⟩
  · intro c hc
    rcases List.mem_append.mp hc with hc | hc
    · exact hopening c hc
    · rcases List.mem_append.mp hc with hc | hc
      · exact (mem_base64 hc).1
      · exact hclosing c hc
  · rw [decodeWord, encodedContent_word]
    rfl

lemma flatten_split (limit size : Nat) (begun text : Text) :
    (EncodedWord.split limit size begun text).flatten = begun.reverse ++ text := by
  induction text generalizing size begun with
  | nil => simp [EncodedWord.split]
  | cons c text ih =>
    rw [EncodedWord.split]
    split_ifs
    · rw [ih]
      simp
    · rw [List.flatten_cons, ih]
      simp

lemma exists_pieces (h : (text.all fun c => (' ' ≤ c && c ≤ '~') || c = '\t') = false) :
    ∃ pieces, pieces ≠ [] ∧ pieces.flatten = text ∧
      EncodedWord.encode text = [' '].intercalate (pieces.map EncodedWord.word) := by
  rw [EncodedWord.encode, if_neg (by simp [h])]
  split_ifs
  · exact ⟨[text], List.cons_ne_nil _ _, List.flatten_singleton, List.intercalate_singleton.symm⟩
  · refine ⟨EncodedWord.split 45 0 [] text, ?_, flatten_split 45 0 [] text, rfl⟩
    intro hnil
    have hflatten := flatten_split 45 0 [] text
    rw [hnil] at hflatten
    obtain rfl : text = [] := hflatten.symm
    cases h

/-! ### Plain phrases -/

def isPlainPhrase (s : Text) : Bool :=
  (s.splitOn ' ').all fun word => word ≠ [] && word.all isAtext && (encodedContent word).isNone

lemma isPlainWord_iff :
    IsPlainWord word ↔ (word ≠ [] && word.all isAtext && (encodedContent word).isNone) = true := by
  have hdecode : decodeWord word = some (utf8 word, false) ↔ (encodedContent word).isNone = true := by
    unfold decodeWord
    cases encodedContent word with
    | none => simp
    | some content => simp
  simp only [Bool.and_eq_true, decide_eq_true_eq, List.all_eq_true, ← hdecode]
  exact ⟨fun h => ⟨⟨h.ne_nil, h.atext⟩, h.decode⟩, fun h => ⟨h.1.1, h.1.2, h.2⟩⟩

lemma isPlainPhrase_iff {s : Text} :
    isPlainPhrase s = true ↔ ∃ atoms, atoms ≠ [] ∧ (∀ atom ∈ atoms, IsPlainWord atom) ∧ s = [' '].intercalate atoms := by
  rw [isPlainPhrase, List.all_eq_true]
  simp only [← isPlainWord_iff]
  constructor
  · intro h
    exact ⟨s.splitOn ' ', List.splitOn_ne_nil _ _, h, (List.intercalate_splitOn ' ').symm⟩
  · rintro ⟨atoms, hne, hatoms, rfl⟩
    have hblank : ∀ atom ∈ atoms, ' ' ∉ atom := by
      intro atom hatom hmem
      exact absurd ((hatoms atom hatom).atext _ hmem) (by decide)
    rwa [List.splitOn_intercalate ' ' hblank hne]

lemma IsPlainWord.reads (h : IsPlainWord word) : ReadsWord word (utf8 word, false) :=
  ⟨h.ne_nil, h.atext, h.decode⟩

lemma ends_intercalate {atoms : List Text} (h : ∀ atom ∈ atoms, atom ≠ []) :
    (∀ c ∈ ([' '].intercalate atoms).head?, ∃ atom ∈ atoms, c ∈ atom) ∧
      ∀ c ∈ ([' '].intercalate atoms).getLast?, ∃ atom ∈ atoms, c ∈ atom := by
  induction atoms with
  | nil => exact ⟨nofun, nofun⟩
  | cons atom atoms ih =>
    obtain ⟨hatom, hatoms⟩ := List.forall_mem_cons.mp h
    rw [intercalate_eq_laterWords]
    constructor
    · intro c hc
      rw [List.head?_append_of_ne_nil _ hatom] at hc
      exact ⟨atom, List.mem_cons_self, List.mem_of_head? hc⟩
    · intro c hc
      cases atoms with
      | nil =>
        have hnil : laterWords [] = [] := rfl
        rw [hnil, List.append_nil] at hc
        exact ⟨atom, List.mem_cons_self, List.mem_of_getLast? hc⟩
      | cons next atoms =>
        have hnext : next ≠ [] := hatoms next List.mem_cons_self
        have hcons : atom ++ laterWords (next :: atoms) = atom ++ [' '] ++ [' '].intercalate (next :: atoms) := by
          rw [intercalate_eq_laterWords, List.append_assoc]
          rfl
        have hne : [' '].intercalate (next :: atoms) ≠ [] := by
          rw [intercalate_eq_laterWords]
          exact List.append_ne_nil_of_left_ne_nil hnext _
        rw [hcons, List.getLast?_append_of_ne_nil _ hne] at hc
        obtain ⟨atom', hmem, hc'⟩ := (ih hatoms).2 c hc
        exact ⟨atom', List.mem_cons_of_mem _ hmem, hc'⟩

lemma isVchar_of_isDomainChar (h : isDomainChar c = true) : isVchar c = true := by
  simp only [isDomainChar, Bool.or_eq_true, decide_eq_true_eq] at h
  obtain ((h | rfl) | rfl) | rfl := h
  · exact isVchar_of_isAtext h
  all_goals decide

lemma SpecSource.chars (h : SpecSource source spec) :
    ∀ c ∈ source, isVchar c = true ∨ isWSP c = true := by
  obtain @⟨blanks, written, localPart, blanks', domain, hblanks, hlocal, hblanks', hdomain⟩ := h
  have hwritten : ∀ c ∈ written, isVchar c = true ∨ isWSP c = true := by
    cases hlocal with
    | atom hatom => exact fun c hc => .inl (isVchar_of_isAtext (hatom.atext c hc))
    | @quoted q localPart hne hlength hread hchars =>
      intro c hc
      rcases List.mem_cons.mp hc with rfl | hc
      · exact .inl (by decide)
      · rcases List.mem_append.mp hc with hc | hc
        · exact hchars c hc
        · exact .inl (List.mem_singleton.mp hc ▸ by decide)
  intro c hc
  simp only [List.mem_append, List.mem_cons] at hc
  rcases hc with hc | hc | rfl | hc | hc
  · exact .inr (hblanks c hc)
  · exact hwritten c hc
  · exact .inl (by decide)
  · exact .inr (hblanks' c hc)
  · exact .inl (isVchar_of_isDomainChar (hdomain.chars c hc))

lemma inkBytes_of_isSpace {s : Text} (h : ∀ c ∈ s, isSpace c = true) : inkBytes (utf8 s) = 0 := by
  induction s with
  | nil => rfl
  | cons c s ih =>
    obtain ⟨hc, hs⟩ := List.forall_mem_cons.mp h
    rw [inkBytes_utf8_cons, ih hs, Nat.add_zero]
    by_cases hascii : c.toNat < 128
    · rw [inkBytes_utf8EncodeChar c hascii, if_neg]
      simp only [isSpace, Bool.or_eq_true, Bool.and_eq_true, decide_eq_true_eq, beq_iff_eq] at hc
      omega
    · exact inkBytes_utf8EncodeChar_of_le (Nat.le_of_not_lt hascii)

lemma inkBytes_trimSpace (s : String) : inkBytes (utf8 (trimSpace s).toList) = inkBytes (utf8 s.toList) := by
  obtain ⟨lead, trail, hs, hlead, htrail⟩ := exists_trimSpace s
  rw [hs, utf8_append, utf8_append, inkBytes_append, inkBytes_append, inkBytes_of_isSpace hlead,
    inkBytes_of_isSpace htrail]
  omega

end MailBaby.Lib.Address
