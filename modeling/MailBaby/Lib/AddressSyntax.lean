import MailBaby.Lib.Address

/-!
# What the address parser reads

A parser that succeeds has read a part of its input and left the rest as it was.
-/

namespace MailBaby.Lib.Address

/-! ### What is left -/

/-- The rest of a text after a part of it that does not end in an angle bracket. -/
def Leaves (s rest : Text) : Prop := ∃ read, s = read ++ rest ∧ read.getLast? ≠ some '>'

namespace Leaves

variable {s t rest read : Text} {c : Char}

lemma refl (s : Text) : Leaves s s := ⟨[], rfl, nofun⟩

lemma trans (h : Leaves s t) (h' : Leaves t rest) : Leaves s rest := by
  obtain ⟨read, rfl, hlast⟩ := h
  obtain ⟨read', rfl, hlast'⟩ := h'
  refine ⟨read ++ read', (List.append_assoc _ _ _).symm, ?_⟩
  rw [List.getLast?_append]
  cases hread : read'.getLast? with
  | none => exact hlast
  | some c =>
    rw [hread] at hlast'
    exact hlast'

lemma of_forall (hread : ∀ c ∈ read, c ≠ '>') (rest : Text) : Leaves (read ++ rest) rest := by
  refine ⟨read, rfl, ?_⟩
  intro hlast
  exact hread '>' (List.mem_of_getLast? hlast) rfl

lemma cons (hc : c ≠ '>') (s : Text) : Leaves (c :: s) s := by
  have hread : ∀ d ∈ [c], d ≠ '>' := by simpa using hc
  exact of_forall hread s

lemma cons_of_lt (h : Leaves s rest) (hlt : rest.length < s.length) (c : Char) : Leaves (c :: s) rest := by
  obtain ⟨read, rfl, hlast⟩ := h
  obtain ⟨d, read, rfl⟩ : ∃ d read', read = d :: read' := by
    cases read with
    | nil => simp at hlt
    | cons d read => exact ⟨d, read, rfl⟩
  exact ⟨c :: d :: read, rfl, by rwa [List.getLast?_cons_cons]⟩

lemma length_le (h : Leaves s rest) : rest.length ≤ s.length := by
  obtain ⟨read, rfl, -⟩ := h
  simp

lemma suffix (h : Leaves s rest) : rest <:+ s := by
  obtain ⟨read, rfl, -⟩ := h
  exact List.suffix_append _ _

lemma of_suffix (h : c :: rest <:+ s) (hc : c ≠ '>') : Leaves s rest := by
  obtain ⟨before, rfl⟩ := h
  refine ⟨before ++ [c], by simp, ?_⟩
  rw [List.getLast?_concat]
  simpa using hc

lemma ne_nil (h : Leaves s rest) (hlast : s.getLast? = some '>') : rest ≠ [] := by
  rintro rfl
  obtain ⟨read, rfl, hread⟩ := h
  rw [List.append_nil] at hlast
  exact hread hlast

end Leaves

/-! ### Atoms -/

/-- A text with dots between its pieces. -/
structure IsDotAtom (atom : Text) : Prop where
  ne_nil : atom ≠ []
  atext : ∀ c ∈ atom, isAtext c = true
  dots : dotsInside atom = true

lemma isWSP_iff {c : Char} : isWSP c = true ↔ c = ' ' ∨ c = '\t' := by
  simp [isWSP]

lemma isAtext_of_isWSP {c : Char} (h : isWSP c = true) : isAtext c = false := by
  obtain rfl | rfl := isWSP_iff.mp h <;> rfl

lemma isWSP_of_isAtext {c : Char} (h : isAtext c = true) : isWSP c = false := by
  by_contra hblank
  rw [isAtext_of_isWSP (Bool.not_eq_false _ ▸ hblank)] at h
  cases h

lemma skipSpace_of_head {s : Text} (h : ∀ c ∈ s.head?, isWSP c = false) : skipSpace s = s := by
  cases s with
  | nil => rfl
  | cons c s => exact List.dropWhile_cons_of_neg (by simpa using h c rfl)

lemma skipSpace_append {blanks : Text} (hblanks : ∀ c ∈ blanks, isWSP c = true) (s : Text) :
    skipSpace (blanks ++ s) = skipSpace s := List.dropWhile_append_of_pos hblanks

lemma exists_blanks (s : Text) : ∃ blanks, s = blanks ++ skipSpace s ∧ ∀ c ∈ blanks, isWSP c = true :=
  ⟨s.takeWhile isWSP, List.takeWhile_append_dropWhile.symm, fun _ hc => List.mem_takeWhile_imp hc⟩

lemma leaves_skipSpace (s : Text) : Leaves s (skipSpace s) := by
  obtain ⟨blanks, hs, hblanks⟩ := exists_blanks s
  have hread : ∀ c ∈ blanks, c ≠ '>' := by
    rintro c hc rfl
    exact absurd (hblanks _ hc) (by decide)
  have hleaves := Leaves.of_forall hread (skipSpace s)
  rwa [← hs] at hleaves

lemma consumeAtom_some {permissive : Bool} {s atom rest : Text}
    (h : consumeAtom permissive s = some (atom, rest)) :
    s = atom ++ rest ∧ atom ≠ [] ∧ (∀ c ∈ atom, isAtext c = true) ∧
      (permissive = false → dotsInside atom = true) := by
  unfold consumeAtom at h
  dsimp only at h
  split_ifs at h with hempty hdots
  obtain ⟨rfl, rfl⟩ := Prod.mk.inj (Option.some.inj h)
  refine ⟨List.takeWhile_append_dropWhile.symm, hempty, fun _ hc => List.mem_takeWhile_imp hc, ?_⟩
  rintro rfl
  simpa using hdots

lemma span_atom {atom rest : Text} (hatom : ∀ c ∈ atom, isAtext c = true)
    (hrest : ∀ c ∈ rest.head?, isAtext c = false) :
    (atom ++ rest).takeWhile isAtext = atom ∧ (atom ++ rest).dropWhile isAtext = rest := by
  rw [List.takeWhile_append_of_pos hatom, List.dropWhile_append_of_pos hatom]
  cases rest with
  | nil => exact ⟨List.append_nil _, rfl⟩
  | cons c rest =>
    have hc : ¬isAtext c = true := by simpa using hrest c rfl
    rw [List.takeWhile_cons_of_neg hc, List.dropWhile_cons_of_neg hc, List.append_nil]
    exact ⟨rfl, rfl⟩

lemma consumeAtom_append {permissive : Bool} {atom rest : Text} (hne : atom ≠ [])
    (hatom : ∀ c ∈ atom, isAtext c = true) (hdots : permissive = false → dotsInside atom = true)
    (hrest : ∀ c ∈ rest.head?, isAtext c = false) :
    consumeAtom permissive (atom ++ rest) = some (atom, rest) := by
  obtain ⟨htake, hdrop⟩ := span_atom hatom hrest
  unfold consumeAtom
  rw [htake, hdrop]
  cases permissive with
  | true => simp [hne]
  | false => simp [hne, hdots rfl]

lemma leaves_of_consumeAtom {permissive : Bool} {s atom rest : Text}
    (h : consumeAtom permissive s = some (atom, rest)) : Leaves s rest := by
  obtain ⟨rfl, -, hatom, -⟩ := consumeAtom_some h
  refine Leaves.of_forall ?_ rest
  rintro c hc rfl
  exact absurd (hatom _ hc) (by decide)

/-! ### Quoted strings -/

lemma quotedString_some {escaped : Bool} {s content rest : Text}
    (h : quotedString escaped s = some (content, rest)) :
    ∃ source, s = source ++ '"' :: rest ∧ content.Sublist source ∧
      (∀ rest', quotedString escaped (source ++ '"' :: rest') = some (content, rest')) ∧
      ∀ c ∈ source, isVchar c = true ∨ isWSP c = true := by
  induction s generalizing escaped content with
  | nil => cases escaped <;> cases h
  | cons c s ih =>
    -- a character that is taken over to the content
    have hkeep : ∀ {escaped' : Bool} {content' : Text},
        (quotedString escaped' s).map (fun r => (c :: r.1, r.2)) = some (content', rest) →
        ∃ content'', content' = c :: content'' ∧ quotedString escaped' s = some (content'', rest) := by
      intro escaped' content' hmap
      obtain ⟨⟨content'', rest''⟩, hread, heq⟩ := Option.map_eq_some_iff.mp hmap
      obtain ⟨rfl, rfl⟩ := Prod.mk.inj heq
      exact ⟨content'', rfl, hread⟩
    cases escaped with
    | true =>
      rw [quotedString] at h
      split_ifs at h with hc
      obtain ⟨content'', rfl, hread⟩ := hkeep h
      obtain ⟨source, rfl, hsub, hany, hchars⟩ := ih hread
      refine ⟨c :: source, rfl, hsub.cons_cons c, ?_, ?_⟩
      · intro rest'
        rw [List.cons_append, quotedString, if_pos hc, hany rest']
        rfl
      · rintro d (_ | ⟨_, hd⟩)
        · simpa using hc
        · exact hchars d hd
    | false =>
      rw [quotedString] at h
      by_cases hc : (isQtext c || isWSP c) = true
      · rw [if_pos hc] at h
        obtain ⟨content'', rfl, hread⟩ := hkeep h
        obtain ⟨source, rfl, hsub, hany, hchars⟩ := ih hread
        refine ⟨c :: source, rfl, hsub.cons_cons c, ?_, ?_⟩
        · intro rest'
          rw [List.cons_append, quotedString, if_pos hc, hany rest']
          rfl
        · rintro d (_ | ⟨_, hd⟩)
          · rcases Bool.or_eq_true_iff.mp hc with hc | hc
            · exact .inl (Bool.and_eq_true_iff.mp hc).2
            · exact .inr hc
          · exact hchars d hd
      · rw [if_neg hc] at h
        split_ifs at h with hquote hslash
        · obtain ⟨rfl, rfl⟩ := Prod.mk.inj (Option.some.inj h)
          subst hquote
          exact ⟨[], rfl, List.Sublist.refl _, fun rest' => rfl, fun c hc => absurd hc List.not_mem_nil⟩
        · obtain ⟨source, rfl, hsub, hany, hchars⟩ := ih h
          subst hslash
          refine ⟨'\\' :: source, rfl, hsub.cons _, fun rest' => hany rest', ?_⟩
          rintro d (_ | ⟨_, hd⟩)
          · exact .inl (by decide)
          · exact hchars d hd

lemma leaves_of_quotedString {escaped : Bool} {s content rest : Text}
    (h : quotedString escaped s = some (content, rest)) : Leaves s rest := by
  obtain ⟨source, rfl, -, -, -⟩ := quotedString_some h
  refine ⟨source ++ ['"'], by simp, ?_⟩
  rw [List.getLast?_concat]
  decide

/-! ### Domains -/

def isDomainChar (c : Char) : Bool := isAtext c || c = '[' || c = ']' || c = ':'

lemma isAtext_of_isHexDigit (c : Char) : isHexDigit c = true → isAtext c = true := by
  refine char_induction (P := fun c => isHexDigit c = true → isAtext c = true) (by decide +kernel) ?_ c
  intro c hc hhex
  simp only [isHexDigit, isDigit, Bool.or_eq_true, Bool.and_eq_true, decide_eq_true_eq, Char.le_def] at hhex
  exfalso
  have hval : c.toNat = c.val.toNat := rfl
  rcases hhex with (⟨-, h⟩ | ⟨-, h⟩) | ⟨-, h⟩
  all_goals
    have hle := UInt32.le_iff_toNat_le.mp h
    simp at hle
    omega

lemma mem_intercalate {sep c : Char} {pieces : List Text} (h : c ∈ [sep].intercalate pieces) :
    c = sep ∨ ∃ piece ∈ pieces, c ∈ piece := by
  induction pieces with
  | nil => cases h
  | cons piece pieces ih =>
    by_cases hlast : pieces = []
    · subst hlast
      rw [List.intercalate_singleton] at h
      exact .inr ⟨piece, List.mem_cons_self, h⟩
    · rw [List.intercalate_cons_of_ne_nil hlast, List.append_assoc, List.mem_append, List.mem_append,
        List.mem_singleton] at h
      rcases h with h | rfl | h
      · exact .inr ⟨piece, List.mem_cons_self, h⟩
      · exact .inl rfl
      · obtain rfl | ⟨piece', hpiece', hc⟩ := ih h
        · exact .inl rfl
        · exact .inr ⟨piece', List.mem_cons_of_mem _ hpiece', hc⟩

lemma mem_intercalate_of_mem {sep c : Char} {pieces : List Text} {piece : Text} (hpiece : piece ∈ pieces)
    (hc : c ∈ piece) : c ∈ [sep].intercalate pieces := by
  induction pieces with
  | nil => cases hpiece
  | cons first pieces ih =>
    by_cases hlast : pieces = []
    · subst hlast
      rw [List.intercalate_singleton]
      exact List.mem_singleton.mp hpiece ▸ hc
    · rw [List.intercalate_cons_of_ne_nil hlast, List.append_assoc, List.mem_append]
      rcases List.mem_cons.mp hpiece with rfl | hpiece
      · exact .inl hc
      · exact .inr (List.mem_append_right _ (ih hpiece))

lemma isDomainChar_of_isHexDigit {c : Char} (h : isHexDigit c = true) : isDomainChar c = true := by
  simp [isDomainChar, isAtext_of_isHexDigit c h]

lemma isDomainChar_of_isIPv4 {s : Text} (h : isIPv4 s = true) : ∀ c ∈ s, isDomainChar c = true := by
  intro c hc
  have hjoin : ['.'].intercalate (s.splitOn '.') = s := List.intercalate_splitOn '.'
  rw [← hjoin] at hc
  obtain rfl | ⟨piece, hpiece, hmem⟩ := mem_intercalate hc
  · decide
  · have hoctet := List.all_eq_true.mp (Bool.and_eq_true_iff.mp h).2 piece hpiece
    simp only [isOctet, Bool.and_eq_true, List.all_eq_true] at hoctet
    exact isDomainChar_of_isHexDigit (by simp [isHexDigit, hoctet.1.1.2 c hmem])

lemma isDomainChar_of_ipv6Fields {left : Nat} {ellipsis : Bool} {s : Text} (h : ipv6Fields left ellipsis s = true) :
    ∀ c ∈ s, isDomainChar c = true := by
  induction left generalizing ellipsis s with
  | zero =>
    simp only [ipv6Fields, Bool.and_eq_true, decide_eq_true_eq] at h
    rw [h.1]
    exact nofun
  | succ left ih =>
    have hfield : ∀ c ∈ s.takeWhile isHexDigit, isDomainChar c = true :=
      fun c hc => isDomainChar_of_isHexDigit (List.mem_takeWhile_imp hc)
    have hwhole : (∀ c ∈ s.dropWhile isHexDigit, isDomainChar c = true) → ∀ c ∈ s, isDomainChar c = true := by
      intro hrest c hc
      rw [← List.takeWhile_append_dropWhile (p := isHexDigit) (l := s)] at hc
      exact (List.mem_append.mp hc).elim (hfield c) (hrest c)
    have hcolon : ∀ {rest : Text}, (∀ c ∈ rest, isDomainChar c = true) →
        ∀ c ∈ ':' :: rest, isDomainChar c = true := by
      intro rest hrest
      rw [List.forall_mem_cons]
      exact ⟨by decide, hrest⟩
    rw [ipv6Fields] at h
    split_ifs at h
    split at h
    · simp only [Bool.and_eq_true] at h
      exact isDomainChar_of_isIPv4 h.1.2
    · next hrest => exact hwhole (hrest ▸ nofun)
    · cases h
    · next hrest => exact hwhole (hrest ▸ hcolon (hcolon nofun))
    · next rest _ hrest =>
      exact hwhole (hrest ▸ hcolon (hcolon (ih (Bool.and_eq_true_iff.mp h).2)))
    · next rest _ _ hrest => exact hwhole (hrest ▸ hcolon (ih h))
    · cases h

lemma isDomainChar_of_isIP {s : Text} (h : isIP s = true) : ∀ c ∈ s, isDomainChar c = true := by
  unfold isIP at h
  split at h
  · exact isDomainChar_of_isIPv4 h
  · unfold isIPv6 at h
    split at h
    · exact List.all_eq_true.mp (by decide)
    · rw [List.forall_mem_cons, List.forall_mem_cons]
      exact ⟨by decide, by decide, isDomainChar_of_ipv6Fields h⟩
    · exact isDomainChar_of_ipv6Fields h
  · cases h

/-- A domain: a name, or an IP address in brackets. -/
inductive IsDomain : Text → Prop
  | name {atom : Text} (h : IsDotAtom atom) : IsDomain atom
  | literal {ip : Text} (htext : ∀ c ∈ ip, isDtext c = true) (hip : isIP ip = true) : IsDomain ('[' :: (ip ++ [']']))

namespace IsDomain

variable {domain rest : Text}

lemma ne_nil (h : IsDomain domain) : domain ≠ [] := by
  cases h with
  | name h => exact h.ne_nil
  | literal => exact List.cons_ne_nil _ _

lemma chars (h : IsDomain domain) : ∀ c ∈ domain, isDomainChar c = true := by
  cases h with
  | name h => intro c hc; simp [isDomainChar, h.atext c hc]
  | literal htext hip =>
    intro c hc
    rcases List.mem_cons.mp hc with rfl | hc
    · decide
    · rcases List.mem_append.mp hc with hc | hc
      · exact isDomainChar_of_isIP hip c hc
      · rw [List.mem_singleton.mp hc]
        decide

lemma not_mem (h : IsDomain domain) {c : Char} (hc : isDomainChar c = false) : c ∉ domain := by
  intro hmem
  rw [h.chars c hmem] at hc
  cases hc

lemma consume (h : IsDomain domain) (hrest : ∀ c ∈ rest.head?, isAtext c = false) :
    consumeDomain (domain ++ rest) = some (domain, rest) := by
  cases h with
  | name h =>
    obtain ⟨c, atom, rfl⟩ := List.exists_cons_of_ne_nil h.ne_nil
    have hc : c ≠ '[' := by
      rintro rfl
      exact absurd (h.atext _ List.mem_cons_self) (by decide)
    have hname : consumeDomain ((c :: atom) ++ rest) = consumeAtom false ((c :: atom) ++ rest) := by
      rw [List.cons_append, consumeDomain]
      simpa using hc
    rw [hname]
    exact consumeAtom_append h.ne_nil h.atext (fun _ => h.dots) hrest
  | @literal ip htext hip =>
    have hclose : ¬isDtext ']' = true := by decide
    have htake : (ip ++ ']' :: rest).takeWhile isDtext = ip := by
      rw [List.takeWhile_append_of_pos htext, List.takeWhile_cons_of_neg hclose, List.append_nil]
    have hdrop : (ip ++ ']' :: rest).dropWhile isDtext = ']' :: rest := by
      rw [List.dropWhile_append_of_pos htext, List.dropWhile_cons_of_neg hclose]
    rw [List.cons_append, List.append_assoc, List.singleton_append, consumeDomain, domainLiteral, hdrop, htake]
    exact if_pos hip

end IsDomain

lemma consumeDomain_some {s domain rest : Text} (h : consumeDomain s = some (domain, rest)) :
    s = domain ++ rest ∧ IsDomain domain := by
  unfold consumeDomain at h
  split at h
  · next s =>
    unfold domainLiteral at h
    split at h
    · next rest' hdrop =>
      split_ifs at h with hip
      obtain ⟨rfl, rfl⟩ := Prod.mk.inj (Option.some.inj h)
      refine ⟨?_, .literal (fun c hc => List.mem_takeWhile_imp hc) hip⟩
      rw [List.cons_append, List.append_assoc, List.singleton_append, ← hdrop, List.takeWhile_append_dropWhile]
    · cases h
  · obtain ⟨hs, hne, hatom, hdots⟩ := consumeAtom_some h
    exact ⟨hs, .name ⟨hne, hatom, hdots rfl⟩⟩

/-! ### Addresses without a name -/

/-- How a local part is written. -/
inductive LocalSource : (source localPart : Text) → Prop
  | atom {l : Text} (h : IsDotAtom l) : LocalSource l l
  | quoted {q l : Text} (hne : l ≠ []) (hlength : l.length ≤ q.length)
      (hread : ∀ rest, quotedString false (q ++ '"' :: rest) = some (l, rest))
      (hchars : ∀ c ∈ q, isVchar c = true ∨ isWSP c = true) : LocalSource ('"' :: (q ++ ['"'])) l

lemma consumeLocalPart_some {s l rest : Text} (h : consumeLocalPart s = some (l, rest)) :
    ∃ source, s = source ++ rest ∧ LocalSource source l := by
  unfold consumeLocalPart at h
  split at h
  · next s =>
    rw [Option.filter_eq_some_iff] at h
    obtain ⟨hread, hne⟩ := h
    obtain ⟨q, rfl, hsub, hany, hchars⟩ := quotedString_some hread
    exact ⟨'"' :: (q ++ ['"']), by simp, .quoted (of_decide_eq_true hne) hsub.length_le hany hchars⟩
  · obtain ⟨hs, hne, hatom, hdots⟩ := consumeAtom_some h
    exact ⟨l, hs, .atom ⟨hne, hatom, hdots rfl⟩⟩

lemma LocalSource.consume {source l : Text} (h : LocalSource source l) (rest : Text) :
    consumeLocalPart (source ++ '@' :: rest) = some (l, '@' :: rest) := by
  cases h with
  | atom h =>
    obtain ⟨c, atom, rfl⟩ := List.exists_cons_of_ne_nil h.ne_nil
    have hc : c ≠ '"' := by
      rintro rfl
      exact absurd (h.atext _ List.mem_cons_self) (by decide)
    have hname : consumeLocalPart ((c :: atom) ++ '@' :: rest) = consumeAtom false ((c :: atom) ++ '@' :: rest) := by
      rw [List.cons_append, consumeLocalPart]
      simpa using hc
    rw [hname]
    refine consumeAtom_append h.ne_nil h.atext (fun _ => h.dots) ?_
    rintro c ⟨⟩
    decide
  | @quoted q l hne hlength hread hchars =>
    rw [List.cons_append, List.append_assoc, List.singleton_append, consumeLocalPart, hread]
    simp [hne]

lemma LocalSource.head {source l : Text} (h : LocalSource source l) (rest : Text) :
    ∀ c ∈ (source ++ rest).head?, isWSP c = false := by
  cases h with
  | atom h =>
    obtain ⟨c, atom, rfl⟩ := List.exists_cons_of_ne_nil h.ne_nil
    rintro c ⟨⟩
    exact isWSP_of_isAtext (h.atext c List.mem_cons_self)
  | quoted =>
    rintro c ⟨⟩
    decide

lemma LocalSource.length {source l : Text} (h : LocalSource source l) :
    l.length < source.length ∨ source = l ∧ IsDotAtom l := by
  cases h with
  | atom h => exact .inr ⟨rfl, h⟩
  | @quoted q l hne hlength hread hchars =>
    left
    rw [List.length_cons, List.length_append]
    omega

lemma IsDomain.head {domain : Text} (h : IsDomain domain) (rest : Text) :
    ∀ c ∈ (domain ++ rest).head?, isWSP c = false := by
  obtain ⟨c, tail, rfl⟩ := List.exists_cons_of_ne_nil h.ne_nil
  rintro c ⟨⟩
  by_contra hblank
  rw [Bool.not_eq_false, isWSP_iff] at hblank
  obtain rfl | rfl := hblank
  · exact h.not_mem (by decide) List.mem_cons_self
  · exact h.not_mem (by decide) List.mem_cons_self

/-- How an address without a name is written. -/
inductive SpecSource : (source spec : Text) → Prop
  | mk {blanks source localPart blanks' domain : Text} (hblanks : ∀ c ∈ blanks, isWSP c = true)
      (hlocal : LocalSource source localPart) (hblanks' : ∀ c ∈ blanks', isWSP c = true)
      (hdomain : IsDomain domain) :
      SpecSource (blanks ++ (source ++ '@' :: (blanks' ++ domain))) (localPart ++ '@' :: domain)

/-- A local part and a domain, without blanks, quotes and brackets around them. -/
def IsBare (s : Text) : Prop := ∃ localPart domain, s = localPart ++ '@' :: domain ∧ IsDotAtom localPart ∧ IsDomain domain

lemma consumeAddrSpec_some {s spec rest : Text} (h : consumeAddrSpec s = some (spec, rest)) :
    ∃ source, s = source ++ rest ∧ SpecSource source spec := by
  unfold consumeAddrSpec at h
  split at h
  · next localPart rest' hlocal =>
    obtain ⟨⟨domain, rest''⟩, hdomain, heq⟩ := Option.map_eq_some_iff.mp h
    obtain ⟨rfl, rfl⟩ := Prod.mk.inj heq
    obtain ⟨blanks, hs, hblanks⟩ := exists_blanks s
    obtain ⟨blanks', hrest, hblanks'⟩ := exists_blanks rest'
    obtain ⟨source, hsource, hlocal'⟩ := consumeLocalPart_some hlocal
    obtain ⟨hdomain, hdomain'⟩ := consumeDomain_some hdomain
    refine ⟨_, ?_, .mk hblanks hlocal' hblanks' hdomain'⟩
    rw [hs, hsource, hrest, hdomain]
    simp
  · cases h

namespace SpecSource

variable {source spec rest : Text}

lemma consume (h : SpecSource source spec) (hrest : ∀ c ∈ rest.head?, isAtext c = false) :
    consumeAddrSpec (source ++ rest) = some (spec, rest) := by
  obtain @⟨blanks, source, localPart, blanks', domain, hblanks, hlocal, hblanks', hdomain⟩ := h
  have hread : consumeDomain (skipSpace (blanks' ++ (domain ++ rest))) = some (domain, rest) := by
    rw [skipSpace_append hblanks', skipSpace_of_head (hdomain.head _), hdomain.consume hrest]
  simp only [List.append_assoc, List.cons_append]
  rw [consumeAddrSpec, skipSpace_append hblanks, skipSpace_of_head (hlocal.head _), hlocal.consume]
  simp only [hread]
  rfl

lemma length (h : SpecSource source spec) : spec.length < source.length ∨ source = spec ∧ IsBare source := by
  obtain @⟨blanks, source, localPart, blanks', domain, hblanks, hlocal, hblanks', hdomain⟩ := h
  by_cases hempty : blanks = [] ∧ blanks' = []
  · obtain ⟨rfl, rfl⟩ := hempty
    obtain hlength | ⟨rfl, hatom⟩ := hlocal.length
    · left
      simpa using hlength
    · exact .inr ⟨rfl, _, domain, rfl, hatom, hdomain⟩
  · left
    have hpositive : 0 < blanks.length + blanks'.length := by
      by_contra hzero
      exact hempty ⟨List.length_eq_zero_iff.mp (by omega), List.length_eq_zero_iff.mp (by omega)⟩
    have hlength : localPart.length ≤ source.length := by
      obtain hlength | ⟨rfl, -⟩ := hlocal.length
      · exact hlength.le
      · exact le_rfl
    simp only [List.length_append, List.length_cons]
    omega

end SpecSource

lemma IsBare.source {s : Text} (h : IsBare s) : SpecSource s s := by
  obtain ⟨localPart, domain, rfl, hatom, hdomain⟩ := h
  have hblanks : ∀ c ∈ ([] : Text), isWSP c = true := nofun
  exact .mk hblanks (.atom hatom) hblanks hdomain

lemma IsBare.not_mem {s : Text} (h : IsBare s) {c : Char} (hc : isDomainChar c = false) (hat : c ≠ '@') : c ∉ s := by
  obtain ⟨localPart, domain, rfl, hatom, hdomain⟩ := h
  rw [List.mem_append, List.mem_cons, not_or, not_or]
  refine ⟨?_, hat, hdomain.not_mem hc⟩
  intro hmem
  rw [isDomainChar, hatom.atext c hmem] at hc
  cases hc

/-! ### Comments, phrases and groups -/

lemma comment_some {depth : Nat} {s content rest : Text} (h : comment depth s = some (content, rest)) :
    ∃ read, s = read ++ ')' :: rest := by
  have hkeep : ∀ {depth : Nat} {s content rest : Text} {c : Char},
      (comment depth s).map (fun r => (c :: r.1, r.2)) = some (content, rest) →
      ∃ content', comment depth s = some (content', rest) := by
    intro depth s content rest c hmap
    obtain ⟨⟨content', rest'⟩, hread, heq⟩ := Option.map_eq_some_iff.mp hmap
    obtain ⟨rfl, rfl⟩ := Prod.mk.inj heq
    exact ⟨content', hread⟩
  fun_induction comment depth s generalizing content with
  | case1 => cases h
  | case2 depth d s ih =>
    obtain ⟨content', hread⟩ := hkeep h
    obtain ⟨read, rfl⟩ := ih hread
    exact ⟨'\\' :: d :: read, rfl⟩
  | case4 s =>
    obtain ⟨rfl, rfl⟩ := Prod.mk.inj (Option.some.inj h)
    exact ⟨[], rfl⟩
  | case3 depth s ih =>
    obtain ⟨content', hread⟩ := hkeep h
    obtain ⟨read, rfl⟩ := ih hread
    exact ⟨'(' :: read, rfl⟩
  | case5 s depth ih =>
    obtain ⟨content', hread⟩ := hkeep h
    obtain ⟨read, rfl⟩ := ih hread
    exact ⟨')' :: read, rfl⟩
  | case6 depth c s _ _ _ ih =>
    obtain ⟨content', hread⟩ := hkeep h
    obtain ⟨read, rfl⟩ := ih hread
    exact ⟨c :: read, rfl⟩

lemma leaves_of_displayNameComment {s rest : Text} {name : List UInt8}
    (h : displayNameComment s = some (name, rest)) : Leaves s rest := by
  unfold displayNameComment at h
  split at h
  · cases h
  · next content rest' hcomment =>
    obtain ⟨words, -, heq⟩ := Option.map_eq_some_iff.mp h
    obtain ⟨-, rfl⟩ := Prod.mk.inj heq
    obtain ⟨read, rfl⟩ := comment_some hcomment
    refine ⟨read ++ [')'], by simp, ?_⟩
    rw [List.getLast?_concat]
    decide

lemma leaves_of_skipComments {depth : Nat} {s rest : Text} (h : skipComments depth s = some rest) :
    Leaves s rest ∧ (0 < depth → rest.length < s.length) := by
  fun_induction skipComments depth s with
  | case1 =>
    cases h
    exact ⟨.refl _, nofun⟩
  | case2 => cases h
  | case3 c s hblank ih =>
    have hc : c ≠ '>' := by
      rintro rfl
      exact absurd hblank (by decide)
    exact ⟨(Leaves.cons hc s).trans (ih h).1, nofun⟩
  | case4 s hblank ih => exact ⟨(Leaves.cons (by decide) s).trans (ih h).1, nofun⟩
  | case5 c s hblank hopen =>
    cases h
    exact ⟨.refl _, nofun⟩
  | case6 depth d s ih =>
    obtain ⟨hleaves, hlt⟩ := ih h
    have hlt' := hlt (Nat.succ_pos _)
    refine ⟨(hleaves.cons_of_lt hlt' d).cons_of_lt (Nat.lt_succ_of_lt hlt') _, fun _ => ?_⟩
    exact Nat.lt_succ_of_lt (Nat.lt_succ_of_lt hlt')
  | case7 depth s ih =>
    obtain ⟨hleaves, hlt⟩ := ih h
    exact ⟨hleaves.cons_of_lt (hlt (Nat.succ_pos _)) _, fun _ => Nat.lt_succ_of_lt (hlt (Nat.succ_pos _))⟩
  | case8 depth s ih =>
    obtain ⟨hleaves, -⟩ := ih h
    exact ⟨(Leaves.cons (by decide) s).trans hleaves, fun _ => Nat.lt_succ_of_le hleaves.length_le⟩
  | case9 depth c s _ _ _ ih =>
    obtain ⟨hleaves, hlt⟩ := ih h
    exact ⟨hleaves.cons_of_lt (hlt (Nat.succ_pos _)) _, fun _ => Nat.lt_succ_of_lt (hlt (Nat.succ_pos _))⟩

lemma leaves_of_skipCFWS {s rest : Text} (h : skipCFWS s = some rest) : Leaves s rest :=
  (leaves_of_skipComments h).1

/-- How the words of a phrase are read. A word in an unknown character set ends it. -/
inductive PhraseReads : Text → List (List UInt8 × Bool) → Text → Prop
  | done (s : Text) : PhraseReads s [] s
  | skip {s t rest : Text} {words : List (List UInt8 × Bool)} (hskip : skipCFWS s = some t)
      (hrest : PhraseReads t words rest) : PhraseReads s words rest
  | blanks {s rest : Text} {words : List (List UInt8 × Bool)} (hrest : PhraseReads (skipSpace s) words rest) :
      PhraseReads s words rest
  | quoted {s t content rest : Text} {words : List (List UInt8 × Bool)}
      (hquoted : quotedString false s = some (content, t)) (hrest : PhraseReads t words rest) :
      PhraseReads ('"' :: s) ((utf8 content, false) :: words) rest
  | atom {s t atom rest : Text} {word : List UInt8 × Bool} {words : List (List UInt8 × Bool)}
      (hatom : consumeAtom true s = some (atom, t)) (hword : decodeWord atom = some word)
      (hrest : PhraseReads t words rest) : PhraseReads s (word :: words) rest
  | unknown {s t atom : Text} (hatom : consumeAtom true s = some (atom, t)) : PhraseReads s [] t

lemma phraseReads_of_phraseWords {fuel : Nat} {first : Bool} {s rest : Text} {words : List (List UInt8 × Bool)}
    (h : phraseWords fuel first s = some (words, rest)) : PhraseReads s words rest := by
  induction fuel generalizing first s words with
  | zero =>
    obtain ⟨rfl, rfl⟩ := Prod.mk.inj (Option.some.inj h)
    exact .done _
  | succ fuel ih =>
    have hmore : ∀ {word : List UInt8 × Bool} {t : Text} {words : List (List UInt8 × Bool)},
        (phraseWords fuel false t).map (fun r => (word :: r.1, r.2)) = some (words, rest) →
        ∃ words', words = word :: words' ∧ PhraseReads t words' rest := by
      intro word t words hmap
      obtain ⟨⟨words', rest'⟩, hread, heq⟩ := Option.map_eq_some_iff.mp hmap
      obtain ⟨rfl, rfl⟩ := Prod.mk.inj heq
      exact ⟨words', rfl, ih hread⟩
    -- where the words end, what is left stands as it is
    have hend : ∀ {t : Text} {words : List (List UInt8 × Bool)},
        (if first = true then none else some ([], t)) = some (words, rest) → words = [] ∧ t = rest := by
      intro t words hstop
      split_ifs at hstop
      obtain ⟨rfl, rfl⟩ := Prod.mk.inj (Option.some.inj hstop)
      exact ⟨rfl, rfl⟩
    rw [phraseWords] at h
    split at h
    · cases h
    · next t hskip =>
      have hread : PhraseReads t words rest := by
        refine .blanks ?_
        split at h
        · next hblank =>
          obtain ⟨rfl, rfl⟩ := hend h
          exact hblank ▸ .done _
        · next u hquote =>
          rw [hquote]
          split at h
          · obtain ⟨rfl, rfl⟩ := hend h
            exact .done _
          · next content v hcontent =>
            obtain ⟨words', rfl, hrest⟩ := hmore h
            exact .quoted hcontent hrest
        · next u _ _ =>
          split at h
          · obtain ⟨rfl, rfl⟩ := hend h
            exact .done _
          · next atom v hatom =>
            split at h
            · obtain ⟨rfl, rfl⟩ := hend h
              exact .unknown hatom
            · next word hword =>
              obtain ⟨words', rfl, hrest⟩ := hmore h
              exact .atom hatom hword hrest
      split_ifs at hskip
      · exact Option.some.inj hskip ▸ hread
      · exact .skip hskip hread

lemma PhraseReads.leaves {s rest : Text} {words : List (List UInt8 × Bool)} (h : PhraseReads s words rest) :
    Leaves s rest := by
  induction h with
  | done => exact .refl _
  | skip hskip hrest ih => exact (leaves_of_skipCFWS hskip).trans ih
  | blanks hrest ih => exact (leaves_skipSpace _).trans ih
  | quoted hquoted hrest ih =>
    exact (Leaves.cons (by decide) _).trans ((leaves_of_quotedString hquoted).trans ih)
  | atom hatom hword hrest ih => exact (leaves_of_consumeAtom hatom).trans ih
  | unknown hatom => exact leaves_of_consumeAtom hatom

/-! ### Addresses -/

/-- The display name before angle brackets, if there is one. -/
inductive DisplayName : Text → List UInt8 → Text → Prop
  | none {s : Text} : DisplayName ('<' :: s) [] ('<' :: s)
  | phrase {s rest : Text} {words : List (List UInt8 × Bool)} (h : PhraseReads s words rest) :
      DisplayName s (joinWords words) rest

lemma DisplayName.leaves {s after : Text} {name : List UInt8} (h : DisplayName s name after) : Leaves s after := by
  cases h with
  | none => exact .refl _
  | phrase h => exact h.leaves

/-- The forms from which an address is read. -/
inductive Reads (group : Option (Text → Option (List Mailbox × Text))) (s : Text) : List Mailbox → Text → Prop
  | spec {source spec after : Text} (hs : s = source ++ after) (hspec : SpecSource source spec) :
      Reads group s [⟨[], spec⟩] (skipSpace after)
  | comment {source spec after inner rest : Text} {name : List UInt8} (hs : s = source ++ after)
      (hspec : SpecSource source spec) (hopen : skipSpace after = '(' :: inner)
      (hname : displayNameComment inner = some (name, rest)) : Reads group s [⟨name, spec⟩] rest
  | group {name : List UInt8} {after inner rest : Text} {mailboxes : List Mailbox}
      {members : Text → Option (List Mailbox × Text)} (hname : DisplayName s name after)
      (hopen : skipSpace after = ':' :: inner) (hgroup : group = some members)
      (hmembers : members inner = some (mailboxes, rest)) : Reads group s mailboxes rest
  | angle {name : List UInt8} {after source spec rest : Text} (hname : DisplayName s name after)
      (hopen : skipSpace after = '<' :: (source ++ '>' :: rest)) (hspec : SpecSource source spec) :
      Reads group s [⟨name, spec⟩] rest

lemma reads_of_parseAddressWith {group : Option (Text → Option (List Mailbox × Text))} {s rest : Text}
    {mailboxes : List Mailbox} (h : parseAddressWith group s = some (mailboxes, rest)) :
    Reads group (skipSpace s) mailboxes rest := by
  rw [parseAddressWith] at h
  generalize skipSpace s = t at h
  split at h
  · cases h
  · split at h
    · next spec after hspec =>
      obtain ⟨source, hs, hsource⟩ := consumeAddrSpec_some hspec
      split at h
      · next inner hopen =>
        obtain ⟨⟨name, rest'⟩, hname, heq⟩ := Option.map_eq_some_iff.mp h
        obtain ⟨rfl, rfl⟩ := Prod.mk.inj heq
        exact .comment hs hsource hopen hname
      · obtain ⟨rfl, rfl⟩ := Prod.mk.inj (Option.some.inj h)
        exact .spec hs hsource
    · split at h
      · cases h
      · next name after hname =>
        have hdisplay : DisplayName t name after := by
          split_ifs at hname with hhead
          · obtain ⟨rfl, rfl⟩ := Prod.mk.inj (Option.some.inj hname)
            cases t with
            | nil => cases hhead
            | cons c t =>
              obtain rfl := Option.some.inj hhead
              exact .none
          · obtain ⟨⟨words, rest'⟩, hwords, heq⟩ := Option.map_eq_some_iff.mp hname
            obtain ⟨rfl, rfl⟩ := Prod.mk.inj heq
            exact .phrase (phraseReads_of_phraseWords hwords)
        split at h
        · next inner members hopen => exact .group hdisplay hopen rfl h
        · next inner hopen =>
          split at h
          · next spec rest' hspec =>
            obtain ⟨rfl, rfl⟩ := Prod.mk.inj (Option.some.inj h)
            obtain ⟨source, rfl, hsource⟩ := consumeAddrSpec_some hspec
            exact .angle hdisplay hopen hsource
          · cases h
        · cases h

def ReadsMembers (members : Text → Option (List Mailbox × Text)) : Prop :=
  ∀ inner mailboxes rest, members inner = some (mailboxes, rest) →
    Leaves inner rest ∧ ∀ mailbox ∈ mailboxes, '@' ∈ mailbox.address ∧ mailbox.address.length ≤ inner.length

section Reads

variable {group : Option (Text → Option (List Mailbox × Text))} {s rest : Text} {mailboxes : List Mailbox}

lemma SpecSource.length_le {source spec : Text} (h : SpecSource source spec) : spec.length ≤ source.length := by
  obtain hlt | ⟨rfl, -⟩ := h.length
  · exact hlt.le
  · exact le_rfl

lemma SpecSource.at_mem {source spec : Text} (h : SpecSource source spec) : '@' ∈ spec := by
  obtain ⟨-, -, -, -⟩ := h
  exact List.mem_append_right _ List.mem_cons_self

lemma Reads.at_mem (hgroup : ∀ members ∈ group, ReadsMembers members) (h : Reads group s mailboxes rest) :
    ∀ mailbox ∈ mailboxes, '@' ∈ mailbox.address := by
  intro mailbox hmailbox
  cases h with
  | spec hs hspec => exact List.mem_singleton.mp hmailbox ▸ hspec.at_mem
  | comment hs hspec hopen hname => exact List.mem_singleton.mp hmailbox ▸ hspec.at_mem
  | group hname hopen hsome hmembers => exact ((hgroup _ hsome _ _ _ hmembers).2 mailbox hmailbox).1
  | angle hname hopen hspec => exact List.mem_singleton.mp hmailbox ▸ hspec.at_mem

lemma Reads.suffix (hgroup : ∀ members ∈ group, ReadsMembers members) (h : Reads group s mailboxes rest) :
    rest <:+ s := by
  cases h with
  | @spec source spec after hs hspec => exact hs ▸ (leaves_skipSpace after).suffix.trans (List.suffix_append _ _)
  | @comment source spec after inner rest name hs hspec hopen hname =>
    have hafter := (leaves_skipSpace after).suffix
    rw [hopen] at hafter
    have hinner : rest <:+ '(' :: inner := (leaves_of_displayNameComment hname).suffix.trans (List.suffix_cons _ _)
    exact hs ▸ (hinner.trans hafter).trans (List.suffix_append _ _)
  | @group name after inner rest mailboxes members hname hopen hsome hmembers =>
    have hafter := (leaves_skipSpace after).suffix
    rw [hopen] at hafter
    have hinner := (hgroup members hsome inner _ rest hmembers).1.suffix.trans (List.suffix_cons ':' inner)
    exact (hinner.trans hafter).trans hname.leaves.suffix
  | @angle name after source spec rest hname hopen hspec =>
    have hafter := (leaves_skipSpace after).suffix
    rw [hopen] at hafter
    have hinner : rest <:+ '<' :: (source ++ '>' :: rest) := ⟨'<' :: (source ++ ['>']), by simp⟩
    exact (hinner.trans hafter).trans hname.leaves.suffix

lemma Reads.length (hgroup : ∀ members ∈ group, ReadsMembers members) (h : Reads group s mailboxes rest) :
    ∀ mailbox ∈ mailboxes, mailbox.address.length < s.length ∨ s = mailbox.address ∧ IsBare s := by
  have hskip : ∀ {after inner : Text} {c : Char}, skipSpace after = c :: inner → inner.length < after.length := by
    intro after inner c hopen
    have hle := (leaves_skipSpace after).length_le
    rw [hopen] at hle
    exact hle
  intro mailbox hmailbox
  cases h with
  | @spec source spec after hs hspec =>
    rw [List.mem_singleton.mp hmailbox]
    obtain hlt | ⟨rfl, hbare⟩ := hspec.length
    · left
      rw [hs, List.length_append]
      exact Nat.lt_add_right _ hlt
    · cases after with
      | nil =>
        rw [List.append_nil] at hs
        exact .inr ⟨hs, hs ▸ hbare⟩
      | cons c after =>
        left
        rw [hs, List.length_append, List.length_cons]
        exact Nat.lt_add_of_pos_right (Nat.succ_pos _)
  | @comment source spec after inner rest name hs hspec hopen hname =>
    rw [List.mem_singleton.mp hmailbox]
    left
    have hle := hspec.length_le
    have hlt := hskip hopen
    rw [hs, List.length_append]
    change spec.length < _
    omega
  | @group name after inner rest mailboxes members hname hopen hsome hmembers =>
    left
    have hmember := ((hgroup members hsome inner _ rest hmembers).2 mailbox hmailbox).2
    have hlt := hskip hopen
    have hle := hname.leaves.length_le
    omega
  | @angle name after source spec rest hname hopen hspec =>
    rw [List.mem_singleton.mp hmailbox]
    left
    have hlt := hskip hopen
    have hle := hname.leaves.length_le
    have hspec := hspec.length_le
    rw [List.length_append] at hlt
    change spec.length < _
    omega

end Reads

lemma members_of_parseAddressWith {s rest : Text} {mailboxes : List Mailbox}
    (h : parseAddressWith none s = some (mailboxes, rest)) :
    rest <:+ s ∧ ∀ mailbox ∈ mailboxes, '@' ∈ mailbox.address ∧ mailbox.address.length ≤ s.length := by
  have hreads := reads_of_parseAddressWith h
  have hskip := leaves_skipSpace s
  have hnone : ∀ members ∈ (none : Option (Text → Option (List Mailbox × Text))), ReadsMembers members := by
    rintro members ⟨⟩
  refine ⟨(hreads.suffix hnone).trans hskip.suffix, ?_⟩
  intro mailbox hmailbox
  refine ⟨hreads.at_mem hnone mailbox hmailbox, le_trans ?_ hskip.length_le⟩
  obtain hlt | ⟨heq, -⟩ := hreads.length hnone mailbox hmailbox
  · exact hlt.le
  · rw [← heq]

lemma readsMembers_groupMembers (fuel : Nat) : ReadsMembers (groupMembers fuel) := by
  induction fuel with
  | zero => exact nofun
  | succ fuel ih =>
    intro inner mailboxes rest h
    rw [groupMembers] at h
    split at h
    · cases h
    · next members after hmember =>
      obtain ⟨hsuffix, hlength⟩ := members_of_parseAddressWith hmember
      split at h
      · next closed hclose =>
        obtain ⟨last, hskip, heq⟩ := Option.map_eq_some_iff.mp h
        obtain ⟨rfl, rfl⟩ := Prod.mk.inj heq
        have hread := (leaves_of_skipCFWS hclose).suffix.trans hsuffix
        exact ⟨(Leaves.of_suffix hread (by decide)).trans (leaves_of_skipCFWS hskip), hlength⟩
      · next next hcomma =>
        obtain ⟨⟨more, last⟩, hmore, heq⟩ := Option.map_eq_some_iff.mp h
        obtain ⟨rfl, rfl⟩ := Prod.mk.inj heq
        have hread := (leaves_of_skipCFWS hcomma).suffix.trans hsuffix
        obtain ⟨hleaves, hmore⟩ := ih next more _ hmore
        refine ⟨(Leaves.of_suffix hread (by decide)).trans hleaves, ?_⟩
        intro mailbox hmailbox
        rcases List.mem_append.mp hmailbox with hmailbox | hmailbox
        · exact hlength mailbox hmailbox
        · have hle := hread.length_le
          rw [List.length_cons] at hle
          obtain ⟨hat, hlength⟩ := hmore mailbox hmailbox
          exact ⟨hat, by omega⟩
      · cases h

lemma readsMembers_consumeGroupList : ReadsMembers consumeGroupList := by
  intro inner mailboxes rest h
  have hskip := leaves_skipSpace inner
  unfold consumeGroupList at h
  split at h
  · next after hclose =>
    obtain ⟨last, hread, heq⟩ := Option.map_eq_some_iff.mp h
    obtain ⟨rfl, rfl⟩ := Prod.mk.inj heq
    rw [hclose] at hskip
    exact ⟨(hskip.trans (.cons (by decide) after)).trans (leaves_of_skipCFWS hread), nofun⟩
  · obtain ⟨hleaves, hlength⟩ := readsMembers_groupMembers _ _ _ _ h
    refine ⟨hskip.trans hleaves, ?_⟩
    intro mailbox hmailbox
    obtain ⟨hat, hle⟩ := hlength mailbox hmailbox
    exact ⟨hat, hle.trans hskip.length_le⟩

lemma readsMembers_of_mem : ∀ members ∈ some consumeGroupList, ReadsMembers members := by
  rintro members ⟨⟩
  exact readsMembers_consumeGroupList

lemma SpecSource.parseAddress {source spec : Text} (h : SpecSource source spec) :
    parseAddress source = some ([⟨[], spec⟩], []) := by
  have hread : consumeAddrSpec (skipSpace source) = some (spec, []) := by
    obtain @⟨blanks, source, localPart, blanks', domain, hblanks, hlocal, hblanks', hdomain⟩ := h
    rw [skipSpace_append hblanks, skipSpace_of_head (hlocal.head _)]
    have hnone : ∀ c ∈ ([] : Text), isWSP c = true := nofun
    have hbegin := SpecSource.mk hnone hlocal hblanks' hdomain
    have hend : ∀ c ∈ ([] : Text).head?, isAtext c = false := nofun
    have hconsume := hbegin.consume hend
    rwa [List.append_nil] at hconsume
  have hne : skipSpace source ≠ [] := by
    intro hempty
    rw [hempty] at hread
    cases hread
  obtain ⟨c, t, hskip⟩ := List.exists_cons_of_ne_nil hne
  rw [hskip] at hread
  rw [Address.parseAddress, parseAddressWith, hskip]
  simp only [hread]
  rfl

lemma exists_reads_of_parseSingleAddress {s : Text} {mailbox : Mailbox}
    (h : parseSingleAddress s = some mailbox) :
    ∃ rest, Reads (some consumeGroupList) (skipSpace s) [mailbox] rest := by
  unfold parseSingleAddress at h
  split at h
  · next mailbox' rest hread =>
    split_ifs at h
    obtain rfl := Option.some.inj h
    exact ⟨rest, reads_of_parseAddressWith hread⟩
  · cases h

lemma at_mem_of_parseSingleAddress {s : Text} {mailbox : Mailbox} (h : parseSingleAddress s = some mailbox) :
    '@' ∈ mailbox.address := by
  obtain ⟨rest, hreads⟩ := exists_reads_of_parseSingleAddress h
  exact hreads.at_mem readsMembers_of_mem mailbox List.mem_cons_self

theorem parseSingleAddress_eq_iff {s : Text} :
    (∃ mailbox, parseSingleAddress s = some mailbox ∧ mailbox.address = s) ↔ IsBare s := by
  constructor
  · rintro ⟨mailbox, hparse, haddress⟩
    obtain ⟨rest, hreads⟩ := exists_reads_of_parseSingleAddress hparse
    have hle := (leaves_skipSpace s).length_le
    obtain hlt | ⟨heq, hbare⟩ := hreads.length readsMembers_of_mem mailbox List.mem_cons_self
    · rw [haddress] at hlt
      omega
    · rwa [heq, haddress] at hbare
  · intro hbare
    refine ⟨⟨[], s⟩, ?_, rfl⟩
    rw [parseSingleAddress, hbare.source.parseAddress]
    rfl

end MailBaby.Lib.Address
