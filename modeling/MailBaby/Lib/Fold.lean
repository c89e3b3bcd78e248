import MailBaby.Lib.Text

/-!
# Words up to case

A word that is equal to an ASCII word up to case has the same upper-case form, as long as the word has none of
the letters that Unicode also writes outside ASCII.
-/

namespace MailBaby.Lib

def upperRune (c : Char) : Char :=
  if 'a' ≤ c ∧ c ≤ 'z' then Char.ofNat (c.toNat - 32)
  else if c = 'ı' then 'I'
  else if c = 'ſ' then 'S'
  else c

lemma toList_upperWord (s : String) : (upperWord s).toList = s.toList.map upperRune := by
  rw [upperWord, String.toList_ofList]
  rfl

/-- The lower-case letters of ASCII that no letter outside ASCII is equal to up to case, or has as its
lower-case form. -/
def plainLetter (c : Char) : Bool := 'a' ≤ c && c ≤ 'z' && c ≠ 'i' && c ≠ 'k' && c ≠ 's'

lemma toNat_of_plainLetter {c : Char} (h : plainLetter c = true) : 0x61 ≤ c.toNat ∧ c.toNat ≤ 0x7a := by
  simp only [plainLetter, Bool.and_eq_true, decide_eq_true_eq] at h
  obtain ⟨⟨⟨⟨hlo, hhi⟩, -⟩, -⟩, -⟩ := h
  exact ⟨hlo, hhi⟩

lemma orbits_not_plain :
    caseOrbits.all (fun orbit => orbit.head?.all fun first => !plainLetter (Char.ofNat first)) = true := by
  decide

def spaceBands : List (Int × Int) := [(0x9, 0x20), (0x85, 0xa0), (0x1680, 0x1680), (0x2000, 0x205f), (0x3000, 0x3000)]

lemma ranges_checked :
    lowerRanges.all (fun r => ((0x7a : Int) < r.1 + r.2.2.2 ||
      r.1 = r.2.1 && !plainLetter (Char.ofNat ((r.1 : Int) + r.2.2.2).toNat)) &&
      spaceBands.all fun b => b.2 < r.1 + r.2.2.2 || r.2.1 + r.2.2.2 < b.1) = true := by
  decide +kernel

lemma toNat_ofNat (n : Nat) : (Char.ofNat n).toNat = n ∨ (Char.ofNat n).toNat = 0 := by
  by_cases hvalid : n.isValidChar
  · exact Or.inl (congrArg Char.toNat (dif_pos hvalid))
  · exact Or.inr (congrArg Char.toNat (dif_neg hvalid))

lemma plainLetter_ofNat_of_lt {n : Nat} (h : 0x7a < n) : plainLetter (Char.ofNat n) = false := by
  by_contra hplain
  obtain ⟨hlo, hhi⟩ := toNat_of_plainLetter (by simpa using hplain)
  have hcode := toNat_ofNat n
  omega

lemma toNat_ofNat_of_lt {n : Nat} (h : n < 0x80) : (Char.ofNat n).toNat = n :=
  congrArg Char.toNat (dif_pos (Or.inl (Nat.lt_trans h (by decide))))

lemma toLowerRune_of_ascii {c : Char} (h : c.toNat < 0x80) :
    toLowerRune c = if 0x41 ≤ c.toNat ∧ c.toNat ≤ 0x5a then Char.ofNat (c.toNat + 32) else c :=
  if_pos h

lemma upperRune_of_toLowerRune {c : Char} (h : plainLetter (toLowerRune c) = true) :
    upperRune c = Char.ofNat ((toLowerRune c).toNat - 32) := by
  by_cases hascii : c.toNat < 0x80
  · rw [toLowerRune_of_ascii hascii] at h ⊢
    split at h
    · rename_i hupper
      have hnot : ∀ d : Char, 0x61 ≤ d.toNat → c ≠ d := by
        rintro d hd rfl
        omega
      rw [if_pos hupper, toNat_ofNat_of_lt (by omega), Nat.add_sub_cancel, Char.ofNat_toNat, upperRune,
        if_neg, if_neg (hnot _ (by decide)), if_neg (hnot _ (by decide))]
      rintro ⟨hlo, -⟩
      have hcode : 0x61 ≤ c.toNat := hlo
      omega
    · rename_i hlower
      obtain ⟨hlo, hhi⟩ := toNat_of_plainLetter h
      rw [if_neg hlower, upperRune, if_pos ⟨hlo, hhi⟩]
  · -- the ranges of the table lead to none of the plain letters
    exfalso
    unfold toLowerRune at h
    rw [if_neg hascii] at h
    split at h
    · rename_i lo hi stride delta hfind
      obtain ⟨hmem, -⟩ :=
        Bool.and_eq_true_iff.mp (List.all_eq_true.mp ranges_checked _ (List.mem_of_find?_eq_some hfind))
      have hrange := List.find?_some hfind
      simp only [Bool.and_eq_true, decide_eq_true_eq, beq_iff_eq] at hrange
      simp only [Bool.or_eq_true, decide_eq_true_eq, Bool.and_eq_true, Bool.not_eq_true'] at hmem
      rcases hmem with hgt | ⟨hone, hnot⟩
      · rw [plainLetter_ofNat_of_lt (by omega)] at h
        cases h
      · have hc : c.toNat = lo := by omega
        rw [hc, hnot] at h
        cases h
    · have hle := (toNat_of_plainLetter h).2
      omega

lemma upperRune_of_foldClass {c : Char} (h : plainLetter (foldClass c) = true) :
    upperRune c = Char.ofNat ((foldClass c).toNat - 32) := by
  unfold foldClass at h ⊢
  split at h
  · rename_i first rest hfind
    have hmem := List.all_eq_true.mp orbits_not_plain _ (List.mem_of_find?_eq_some hfind)
    rw [List.head?_cons, Option.all_some, Bool.not_eq_true'] at hmem
    rw [hmem] at h
    cases h
  · exact upperRune_of_toLowerRune h

theorem upperWord_of_sameFold {s t : String} (ht : (t.toList.all fun c => plainLetter (foldClass c)) = true)
    (h : sameFold s t = true) : upperWord s = upperWord t := by
  have hfold : s.toList.map foldClass = t.toList.map foldClass := of_decide_eq_true h
  have hplain : ∀ d ∈ t.toList.map foldClass, plainLetter d = true := by
    rw [List.forall_mem_map]
    exact List.all_eq_true.mp ht
  have hupper : ∀ {u : List Char}, u.map foldClass = t.toList.map foldClass →
      u.map upperRune = (t.toList.map foldClass).map fun d => Char.ofNat (d.toNat - 32) := by
    intro u hu
    rw [← hu, List.map_map]
    apply List.map_congr_left
    intro c hc
    apply upperRune_of_foldClass
    apply hplain
    rw [← hu]
    exact List.mem_map_of_mem hc
  rw [← String.toList_inj, toList_upperWord, toList_upperWord, hupper hfold, hupper rfl]

/-! ### White space -/

lemma exists_spaceBand {c : Char} (h : isSpace c = true) :
    ∃ b ∈ spaceBands, b.1 ≤ (c.toNat : Int) ∧ (c.toNat : Int) ≤ b.2 := by
  simp only [isSpace, Bool.or_eq_true, Bool.and_eq_true, decide_eq_true_eq, beq_iff_eq] at h
  simp only [spaceBands, List.exists_mem_cons_iff, List.not_mem_nil, false_and, exists_false, or_false]
  omega

lemma isSpace_of_toLowerRune {c : Char} (h : isSpace (toLowerRune c) = true) : isSpace c = true := by
  obtain ⟨b, hb, hlo, hhi⟩ := exists_spaceBand h
  by_cases hascii : c.toNat < 0x80
  · rw [toLowerRune_of_ascii hascii] at h hlo hhi
    split at h
    · rename_i hupper
      rw [if_pos hupper, toNat_ofNat_of_lt (by omega)] at hlo hhi
      simp only [spaceBands, List.mem_cons, List.not_mem_nil, or_false] at hb
      rcases hb with rfl | rfl | rfl | rfl | rfl <;> omega
    · exact h
  · unfold toLowerRune at h hlo hhi
    rw [if_neg hascii] at h hlo hhi
    split at h
    · -- no range of the table leads to white space
      exfalso
      rename_i lo hi stride delta hfind
      rw [hfind] at hlo hhi
      dsimp only at hlo hhi
      have hrange := List.find?_some hfind
      simp only [Bool.and_eq_true, decide_eq_true_eq, beq_iff_eq] at hrange
      obtain ⟨-, hall⟩ :=
        Bool.and_eq_true_iff.mp (List.all_eq_true.mp ranges_checked _ (List.mem_of_find?_eq_some hfind))
      have hout := List.all_eq_true.mp hall b hb
      simp only [Bool.or_eq_true, decide_eq_true_eq] at hout
      have hpos : 0 < b.1 := (by decide : ∀ b ∈ spaceBands, 0 < b.1) b hb
      have hcode := toNat_ofNat ((c.toNat : Int) + delta).toNat
      omega
    · exact h

lemma not_isSpace_of_trimSpace {s : String} (h : trimSpace s = s) :
    (∀ c ∈ s.toList.head?, isSpace c = false) ∧ ∀ c ∈ s.toList.getLast?, isSpace c = false := by
  have htrim : (s.toList.dropWhile isSpace).rdropWhile isSpace = s.toList := by
    have hlist := congrArg String.toList h
    rwa [trimSpace, String.toList_ofList] at hlist
  have hleft : s.toList.dropWhile isSpace = s.toList := by
    refine (List.dropWhile_suffix _).sublist.eq_of_length (Nat.le_antisymm ?_ ?_)
    · exact (List.dropWhile_suffix _).sublist.length_le
    · have hle := (List.rdropWhile_prefix isSpace (s.toList.dropWhile isSpace)).sublist.length_le
      rwa [htrim] at hle
  rw [hleft] at htrim
  constructor
  · intro c hc
    have hfirst := List.dropWhile_eq_self_iff.mp hleft
    obtain ⟨hl, rfl⟩ := List.getElem?_eq_some_iff.mp (List.head?_eq_getElem? ▸ Option.mem_def.mp hc)
    simpa using hfirst hl
  · intro c hc
    obtain ⟨hl, rfl⟩ := List.mem_getLast?_eq_getLast hc
    simpa using List.rdropWhile_eq_self_iff.mp htrim hl

lemma trimSpace_of_toLower_eq {s t : String} (h : toLower s = toLower t) (ht : trimSpace t = t) :
    trimSpace s = s := by
  have hmap : s.toList.map toLowerRune = t.toList.map toLowerRune := by
    have hlist := congrArg String.toList h
    rwa [toLower, toLower, String.toList_ofList, String.toList_ofList] at hlist
  have hspace : ∀ {c d : Char}, toLowerRune c = toLowerRune d → isSpace d = false → isSpace c = false := by
    intro c d hcd hd
    by_contra hc
    have hsp : isSpace c = true := by simpa using hc
    have hlow : isSpace (toLowerRune d) = true := by
      rw [← hcd, toLowerRune_of_isSpace hsp]
      exact hsp
    rw [isSpace_of_toLowerRune hlow] at hd
    cases hd
  have hedges := not_isSpace_of_trimSpace ht
  refine trimSpace_eq_self (fun c hc => ?_) fun c hc => ?_
  · have hhead := congrArg List.head? hmap
    rw [List.head?_map, List.head?_map, Option.mem_def.mp hc, Option.map_some] at hhead
    obtain ⟨d, hd, hcd⟩ := Option.map_eq_some_iff.mp hhead.symm
    exact hspace hcd.symm (hedges.1 d hd)
  · have hlast := congrArg List.getLast? hmap
    rw [List.getLast?_map, List.getLast?_map, Option.mem_def.mp hc, Option.map_some] at hlast
    obtain ⟨d, hd, hcd⟩ := Option.map_eq_some_iff.mp hlast.symm
    exact hspace hcd.symm (hedges.2 d hd)

end MailBaby.Lib
