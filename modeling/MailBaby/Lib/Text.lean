import Mathlib.Data.List.DropRight
import Mathlib.Tactic.Common

/-!
# Text functions of the Go standard library

`strings.TrimSpace`, `strings.ToLower` and `strings.EqualFold` on Unicode text, with the white space,
the simple lower-case mapping and the case orbits of the Unicode tables that package `unicode` ships,
and the dotted words of a routing name.
-/

namespace MailBaby.Lib

def isSpace (c : Char) : Bool :=
  let n := c.toNat
  (0x9 ≤ n && n ≤ 0xd) || n == 0x20 || n == 0x85 || n == 0xa0 || n == 0x1680 ||
    (0x2000 ≤ n && n ≤ 0x200a) || n == 0x2028 || n == 0x2029 || n == 0x202f || n == 0x205f ||
    n == 0x3000

def trimSpace (s : String) : String :=
  String.ofList ((s.toList.dropWhile isSpace).rdropWhile isSpace)

/-- The simple lower-case mapping outside ASCII: `(lo, hi, stride, delta)` maps every
`stride`-th code point from `lo` to `hi` by adding `delta`. -/
def lowerRanges : List (Nat × Nat × Nat × Int) :=
  [(0xc0, 0xd6, 1, 32), (0xd8, 0xde, 1, 32), (0x100, 0x12e, 2, 1), (0x130, 0x130, 1, -199),
   (0x132, 0x136, 2, 1), (0x139, 0x147, 2, 1), (0x14a, 0x176, 2, 1), (0x178, 0x178, 1, -121),
   (0x179, 0x17d, 2, 1), (0x181, 0x181, 1, 210), (0x182, 0x184, 2, 1), (0x186, 0x186, 1, 206),
   (0x187, 0x187, 1, 1), (0x189, 0x18a, 1, 205), (0x18b, 0x18b, 1, 1), (0x18e, 0x18e, 1, 79),
   (0x18f, 0x18f, 1, 202), (0x190, 0x190, 1, 203), (0x191, 0x191, 1, 1), (0x193, 0x193, 1, 205),
   (0x194, 0x194, 1, 207), (0x196, 0x196, 1, 211), (0x197, 0x197, 1, 209), (0x198, 0x198, 1, 1),
   (0x19c, 0x19c, 1, 211), (0x19d, 0x19d, 1, 213), (0x19f, 0x19f, 1, 214), (0x1a0, 0x1a4, 2, 1),
   (0x1a6, 0x1a6, 1, 218), (0x1a7, 0x1a7, 1, 1), (0x1a9, 0x1a9, 1, 218), (0x1ac, 0x1ac, 1, 1),
   (0x1ae, 0x1ae, 1, 218), (0x1af, 0x1af, 1, 1), (0x1b1, 0x1b2, 1, 217), (0x1b3, 0x1b5, 2, 1),
   (0x1b7, 0x1b7, 1, 219), (0x1b8, 0x1b8, 1, 1), (0x1bc, 0x1bc, 1, 1), (0x1c4, 0x1c4, 1, 2),
   (0x1c5, 0x1c5, 1, 1), (0x1c7, 0x1c7, 1, 2), (0x1c8, 0x1c8, 1, 1), (0x1ca, 0x1ca, 1, 2),
   (0x1cb, 0x1db, 2, 1), (0x1de, 0x1ee, 2, 1), (0x1f1, 0x1f1, 1, 2), (0x1f2, 0x1f4, 2, 1),
   (0x1f6, 0x1f6, 1, -97), (0x1f7, 0x1f7, 1, -56), (0x1f8, 0x21e, 2, 1), (0x220, 0x220, 1, -130),
   (0x222, 0x232, 2, 1), (0x23a, 0x23a, 1, 10795), (0x23b, 0x23b, 1, 1), (0x23d, 0x23d, 1, -163),
   (0x23e, 0x23e, 1, 10792), (0x241, 0x241, 1, 1), (0x243, 0x243, 1, -195), (0x244, 0x244, 1, 69),
   (0x245, 0x245, 1, 71), (0x246, 0x24e, 2, 1), (0x370, 0x372, 2, 1), (0x376, 0x376, 1, 1),
   (0x37f, 0x37f, 1, 116), (0x386, 0x386, 1, 38), (0x388, 0x38a, 1, 37), (0x38c, 0x38c, 1, 64),
   (0x38e, 0x38f, 1, 63), (0x391, 0x3a1, 1, 32), (0x3a3, 0x3ab, 1, 32), (0x3cf, 0x3cf, 1, 8),
   (0x3d8, 0x3ee, 2, 1), (0x3f4, 0x3f4, 1, -60), (0x3f7, 0x3f7, 1, 1), (0x3f9, 0x3f9, 1, -7),
   (0x3fa, 0x3fa, 1, 1), (0x3fd, 0x3ff, 1, -130), (0x400, 0x40f, 1, 80), (0x410, 0x42f, 1, 32),
   (0x460, 0x480, 2, 1), (0x48a, 0x4be, 2, 1), (0x4c0, 0x4c0, 1, 15), (0x4c1, 0x4cd, 2, 1),
   (0x4d0, 0x52e, 2, 1), (0x531, 0x556, 1, 48), (0x10a0, 0x10c5, 1, 7264), (0x10c7, 0x10c7, 1, 7264),
   (0x10cd, 0x10cd, 1, 7264), (0x13a0, 0x13ef, 1, 38864), (0x13f0, 0x13f5, 1, 8),
   (0x1c90, 0x1cba, 1, -3008), (0x1cbd, 0x1cbf, 1, -3008), (0x1e00, 0x1e94, 2, 1),
   (0x1e9e, 0x1e9e, 1, -7615), (0x1ea0, 0x1efe, 2, 1), (0x1f08, 0x1f0f, 1, -8),
   (0x1f18, 0x1f1d, 1, -8), (0x1f28, 0x1f2f, 1, -8), (0x1f38, 0x1f3f, 1, -8), (0x1f48, 0x1f4d, 1, -8),
   (0x1f59, 0x1f5f, 2, -8), (0x1f68, 0x1f6f, 1, -8), (0x1f88, 0x1f8f, 1, -8), (0x1f98, 0x1f9f, 1, -8),
   (0x1fa8, 0x1faf, 1, -8), (0x1fb8, 0x1fb9, 1, -8), (0x1fba, 0x1fbb, 1, -74), (0x1fbc, 0x1fbc, 1, -9),
   (0x1fc8, 0x1fcb, 1, -86), (0x1fcc, 0x1fcc, 1, -9), (0x1fd8, 0x1fd9, 1, -8),
   (0x1fda, 0x1fdb, 1, -100), (0x1fe8, 0x1fe9, 1, -8), (0x1fea, 0x1feb, 1, -112),
   (0x1fec, 0x1fec, 1, -7), (0x1ff8, 0x1ff9, 1, -128), (0x1ffa, 0x1ffb, 1, -126),
   (0x1ffc, 0x1ffc, 1, -9), (0x2126, 0x2126, 1, -7517), (0x212a, 0x212a, 1, -8383),
   (0x212b, 0x212b, 1, -8262), (0x2132, 0x2132, 1, 28), (0x2160, 0x216f, 1, 16),
   (0x2183, 0x2183, 1, 1), (0x24b6, 0x24cf, 1, 26), (0x2c00, 0x2c2f, 1, 48), (0x2c60, 0x2c60, 1, 1),
   (0x2c62, 0x2c62, 1, -10743), (0x2c63, 0x2c63, 1, -3814), (0x2c64, 0x2c64, 1, -10727),
   (0x2c67, 0x2c6b, 2, 1), (0x2c6d, 0x2c6d, 1, -10780), (0x2c6e, 0x2c6e, 1, -10749),
   (0x2c6f, 0x2c6f, 1, -10783), (0x2c70, 0x2c70, 1, -10782), (0x2c72, 0x2c72, 1, 1),
   (0x2c75, 0x2c75, 1, 1), (0x2c7e, 0x2c7f, 1, -10815), (0x2c80, 0x2ce2, 2, 1), (0x2ceb, 0x2ced, 2, 1),
   (0x2cf2, 0x2cf2, 1, 1), (0xa640, 0xa66c, 2, 1), (0xa680, 0xa69a, 2, 1), (0xa722, 0xa72e, 2, 1),
   (0xa732, 0xa76e, 2, 1), (0xa779, 0xa77b, 2, 1), (0xa77d, 0xa77d, 1, -35332), (0xa77e, 0xa786, 2, 1),
   (0xa78b, 0xa78b, 1, 1), (0xa78d, 0xa78d, 1, -42280), (0xa790, 0xa792, 2, 1), (0xa796, 0xa7a8, 2, 1),
   (0xa7aa, 0xa7aa, 1, -42308), (0xa7ab, 0xa7ab, 1, -42319), (0xa7ac, 0xa7ac, 1, -42315),
   (0xa7ad, 0xa7ad, 1, -42305), (0xa7ae, 0xa7ae, 1, -42308), (0xa7b0, 0xa7b0, 1, -42258),
   (0xa7b1, 0xa7b1, 1, -42282), (0xa7b2, 0xa7b2, 1, -42261), (0xa7b3, 0xa7b3, 1, 928),
   (0xa7b4, 0xa7c2, 2, 1), (0xa7c4, 0xa7c4, 1, -48), (0xa7c5, 0xa7c5, 1, -42307),
   (0xa7c6, 0xa7c6, 1, -35384), (0xa7c7, 0xa7c9, 2, 1), (0xa7d0, 0xa7d0, 1, 1), (0xa7d6, 0xa7d8, 2, 1),
   (0xa7f5, 0xa7f5, 1, 1), (0xff21, 0xff3a, 1, 32), (0x10400, 0x10427, 1, 40),
   (0x104b0, 0x104d3, 1, 40), (0x10570, 0x1057a, 1, 39), (0x1057c, 0x1058a, 1, 39),
   (0x1058c, 0x10592, 1, 39), (0x10594, 0x10595, 1, 39), (0x10c80, 0x10cb2, 1, 64),
   (0x118a0, 0x118bf, 1, 32), (0x16e40, 0x16e5f, 1, 32), (0x1e900, 0x1e921, 1, 34)]

def toLowerRune (c : Char) : Char :=
  if c.toNat < 0x80 then
    if 0x41 ≤ c.toNat ∧ c.toNat ≤ 0x5a then Char.ofNat (c.toNat + 32) else c
  else
    match lowerRanges.find? fun (lo, hi, stride, _) =>
        lo ≤ c.toNat && c.toNat ≤ hi && (c.toNat - lo) % stride == 0 with
    | some (_, _, _, delta) => Char.ofNat ((c.toNat : Int) + delta).toNat
    | none => c

def toLower (s : String) : String := String.ofList (s.toList.map toLowerRune)

/-- The letters that are equal up to case, where they are not just a letter and its lower-case form. -/
def caseOrbits : List (List Nat) :=
  [[0x6b, 0x4b, 0x212a], [0x73, 0x53, 0x17f], [0x3bc, 0xb5, 0x39c], [0xe5, 0xc5, 0x212b], [0xdf, 0x1e9e],
   [0x130], [0x131], [0x1c6, 0x1c4, 0x1c5], [0x1c9, 0x1c7, 0x1c8], [0x1cc, 0x1ca, 0x1cb],
   [0x1f3, 0x1f1, 0x1f2], [0x3b9, 0x345, 0x399, 0x1fbe], [0x3b2, 0x392, 0x3d0], [0x3b5, 0x395, 0x3f5],
   [0x3b8, 0x398, 0x3d1, 0x3f4], [0x3ba, 0x39a, 0x3f0], [0x3c0, 0x3a0, 0x3d6], [0x3c1, 0x3a1, 0x3f1],
   [0x3c3, 0x3a3, 0x3c2], [0x3c6, 0x3a6, 0x3d5], [0x3c9, 0x3a9, 0x2126], [0x432, 0x412, 0x1c80],
   [0x434, 0x414, 0x1c81], [0x43e, 0x41e, 0x1c82], [0x441, 0x421, 0x1c83], [0x442, 0x422, 0x1c84, 0x1c85],
   [0x44a, 0x42a, 0x1c86], [0x463, 0x462, 0x1c87], [0xa64b, 0xa64a, 0x1c88], [0x1e61, 0x1e60, 0x1e9b]]

/-- One letter of each class of letters that are equal up to case. -/
def foldClass (c : Char) : Char :=
  match caseOrbits.find? fun orbit => orbit.contains c.toNat with
  | some (first :: _) => Char.ofNat first
  | _ => toLowerRune c

/-- `strings.EqualFold`. -/
def sameFold (s t : String) : Bool := s.toList.map foldClass = t.toList.map foldClass

/-- `strings.ToUpper` as far as a comparison with an ASCII word can tell: the letters with an upper-case
form in ASCII. -/
def upperWord (s : String) : String :=
  String.ofList (s.toList.map fun c =>
    if 'a' ≤ c ∧ c ≤ 'z' then Char.ofNat (c.toNat - 32)
    else if c = 'ı' then 'I'
    else if c = 'ſ' then 'S'
    else c)

/-- `strings.SplitN(s, " ", 2)`: the first word, and what follows the blank after it. -/
def splitSpace (s : String) : String × Option String :=
  match s.toList.dropWhile fun c => c ≠ ' ' with
  | [] => (s, none)
  | _ :: rest => (String.ofList (s.toList.takeWhile fun c => c ≠ ' '), some (String.ofList rest))

/-- `strconv.Quote` on printable text; ASCII control characters are escaped. -/
def quote (s : String) : String :=
  let digit (n : Nat) : Char := if n < 10 then Char.ofNat (48 + n) else Char.ofNat (87 + n)
  let escape (c : Char) : List Char :=
    match c.toNat with
    | 0x22 => ['\\', '"']
    | 0x5c => ['\\', '\\']
    | 0x7 => ['\\', 'a']
    | 0x8 => ['\\', 'b']
    | 0xc => ['\\', 'f']
    | 0xa => ['\\', 'n']
    | 0xd => ['\\', 'r']
    | 0x9 => ['\\', 't']
    | 0xb => ['\\', 'v']
    | n => if n < 0x20 ∨ n = 0x7f then ['\\', 'x', digit (n / 16), digit (n % 16)] else [c]
  String.ofList (['"'] ++ s.toList.flatMap escape ++ ['"'])

def escapeRune (c : Char) : List Char :=
  let digit (n : Nat) : Char := if n < 10 then Char.ofNat (48 + n) else Char.ofNat (87 + n)
  match c.toNat with
  | 0x22 => ['\\', '"']
  | 0x5c => ['\\', '\\']
  | 0x7 => ['\\', 'a']
  | 0x8 => ['\\', 'b']
  | 0xc => ['\\', 'f']
  | 0xa => ['\\', 'n']
  | 0xd => ['\\', 'r']
  | 0x9 => ['\\', 't']
  | 0xb => ['\\', 'v']
  | n => if n < 0x20 ∨ n = 0x7f then ['\\', 'x', digit (n / 16), digit (n % 16)] else [c]

lemma toList_quote (s : String) : (quote s).toList = '"' :: (s.toList.flatMap escapeRune ++ ['"']) := by
  have hquote : quote s = String.ofList (['"'] ++ s.toList.flatMap escapeRune ++ ['"']) := rfl
  rw [hquote, String.toList_ofList]
  rfl

def dottedWords (s : String) : List String :=
  if s = "" then [] else (s.toList.splitOn '.').map String.ofList

section SplitSpace

variable {word : String}

lemma ne_space_of_not_mem (h : ' ' ∉ word.toList) : ∀ c ∈ word.toList, decide (c ≠ ' ') = true := by
  intro c hc
  apply decide_eq_true
  rintro rfl
  exact h hc

lemma splitSpace_of_not_mem (h : ' ' ∉ word.toList) : splitSpace word = (word, none) := by
  have hdrop : word.toList.dropWhile (fun c => c ≠ ' ') = [] :=
    List.dropWhile_eq_nil_iff.mpr (ne_space_of_not_mem h)
  rw [splitSpace, hdrop]

lemma toList_append_space (word rest : String) :
    (word ++ " " ++ rest).toList = word.toList ++ ' ' :: rest.toList := by
  rw [String.toList_append, String.toList_append, List.append_assoc]
  rfl

lemma append_space_ne_empty (word rest : String) : word ++ " " ++ rest ≠ "" := by
  intro hempty
  have hlist := congrArg String.toList hempty
  rw [toList_append_space] at hlist
  exact List.append_ne_nil_of_right_ne_nil _ (List.cons_ne_nil _ _) hlist

lemma splitSpace_append (h : ' ' ∉ word.toList) (rest : String) :
    splitSpace (word ++ " " ++ rest) = (word, some rest) := by
  have htext := toList_append_space word rest
  have hdrop : (word ++ " " ++ rest).toList.dropWhile (fun c => c ≠ ' ') = ' ' :: rest.toList := by
    rw [htext, List.dropWhile_append_of_pos (ne_space_of_not_mem h)]
    rfl
  have htake : (word ++ " " ++ rest).toList.takeWhile (fun c => c ≠ ' ') = word.toList := by
    rw [htext, List.takeWhile_append_of_pos (ne_space_of_not_mem h), List.takeWhile_cons_of_neg (by decide),
      List.append_nil]
  rw [splitSpace, hdrop]
  dsimp only
  rw [htake, String.ofList_toList, String.ofList_toList]

lemma exists_splitSpace (s : String) :
    ' ' ∉ s.toList ∨ ∃ word rest : String, ' ' ∉ word.toList ∧ s = word ++ " " ++ rest := by
  by_cases hspace : ' ' ∈ s.toList
  · obtain ⟨before, after, hsplit, hbefore⟩ := List.eq_append_cons_of_mem hspace
    refine .inr ⟨String.ofList before, String.ofList after, ?_, ?_⟩
    · rwa [String.toList_ofList]
    · rw [← String.toList_inj, toList_append_space, String.toList_ofList, String.toList_ofList, hsplit]
  · exact .inl hspace

end SplitSpace

lemma toLowerRune_of_isSpace {c : Char} (h : isSpace c = true) : toLowerRune c = c := by
  have hof : ∀ {n : Nat}, c.toNat = n → toLowerRune (Char.ofNat n) = Char.ofNat n → toLowerRune c = c := by
    intro n hn hfixed
    rwa [← hn, Char.ofNat_toNat] at hfixed
  have hcontrol : (List.range' 0x9 5).all (fun n => toLowerRune (Char.ofNat n) = Char.ofNat n) = true := by
    decide +kernel
  have hquads : (List.range' 0x2000 11).all (fun n => toLowerRune (Char.ofNat n) = Char.ofNat n) = true := by
    decide +kernel
  have hrange : ∀ {lo n : Nat},
      (List.range' lo n).all (fun n => toLowerRune (Char.ofNat n) = Char.ofNat n) = true →
        lo ≤ c.toNat → c.toNat < lo + n → toLowerRune c = c := by
    intro lo n hall hlo hhi
    exact hof rfl (of_decide_eq_true (List.all_eq_true.mp hall _ (List.mem_range'_1.mpr ⟨hlo, hhi⟩)))
  simp only [isSpace, Bool.or_eq_true, Bool.and_eq_true, decide_eq_true_eq, beq_iff_eq] at h
  rcases h with (((((((((⟨hlo, hhi⟩ | h) | h) | h) | h) | ⟨hlo, hhi⟩) | h) | h) | h) | h) | h
  any_goals exact hof h (by decide +kernel)
  · exact hrange hcontrol hlo (Nat.lt_succ_of_le hhi)
  · exact hrange hquads hlo (Nat.lt_succ_of_le hhi)

lemma trimSpace_eq_self {s : String} (hfirst : ∀ c ∈ s.toList.head?, isSpace c = false)
    (hlast : ∀ c ∈ s.toList.getLast?, isSpace c = false) : trimSpace s = s := by
  have hleft : s.toList.dropWhile isSpace = s.toList := by
    rw [List.dropWhile_eq_self_iff]
    intro hl hc
    rw [hfirst _ (List.head?_eq_getElem? ▸ List.getElem?_eq_getElem hl)] at hc
    cases hc
  have hright : s.toList.rdropWhile isSpace = s.toList := by
    rw [List.rdropWhile_eq_self_iff]
    intro hl hc
    rw [hlast _ (List.getLast?_eq_some_getLast hl)] at hc
    cases hc
  rw [trimSpace, hleft, hright, String.ofList_toList]

lemma trimSpace_of_toLower {s : String} (h : ∀ c ∈ (toLower s).toList, isSpace c = false) :
    trimSpace s = s := by
  have hs : ∀ c ∈ s.toList, isSpace c = false := by
    intro c hc
    by_contra hsp
    have hsp' : isSpace c = true := by simpa using hsp
    have hmem : toLowerRune c ∈ (toLower s).toList := by
      simp only [toLower, String.toList_ofList, List.mem_map]
      exact ⟨c, hc, rfl⟩
    rw [toLowerRune_of_isSpace hsp'] at hmem
    exact hsp (h c hmem)
  exact trimSpace_eq_self (fun c hc => hs c (List.mem_of_head? hc)) fun c hc => hs c (List.mem_of_getLast? hc)

lemma trimSpace_trimSpace (s : String) : trimSpace (trimSpace s) = trimSpace s := by
  refine trimSpace_eq_self (fun c hc => ?_) fun c hc => ?_
  · rw [trimSpace, String.toList_ofList] at hc
    obtain ⟨rest, hrest⟩ := List.head?_eq_some_iff.mp (Option.mem_def.mp hc)
    have hhead : (s.toList.dropWhile isSpace).head? = some c := by
      obtain ⟨trail, htrail⟩ := List.rdropWhile_prefix isSpace (s.toList.dropWhile isSpace)
      rw [← htrail, hrest]
      rfl
    have hnot := List.head?_dropWhile_not isSpace s.toList
    rw [hhead] at hnot
    simpa using hnot
  · rw [trimSpace, String.toList_ofList] at hc
    obtain ⟨hne, rfl⟩ := List.mem_getLast?_eq_getLast hc
    simpa using List.rdropWhile_last_not isSpace _ hne

lemma exists_trimSpace (s : String) :
    ∃ lead trail, s.toList = lead ++ ((trimSpace s).toList ++ trail) ∧ (∀ c ∈ lead, isSpace c = true) ∧
      ∀ c ∈ trail, isSpace c = true := by
  refine ⟨s.toList.takeWhile isSpace, (s.toList.dropWhile isSpace).rtakeWhile isSpace, ?_,
    fun c hc => List.mem_takeWhile_imp hc, fun c hc => List.mem_rtakeWhile_imp hc⟩
  rw [trimSpace, String.toList_ofList, List.rdropWhile_append_rtakeWhile, List.takeWhile_append_dropWhile]

lemma length_toLower (s : String) : (toLower s).length = s.length := by
  simp [toLower, ← String.length_toList]

lemma trimSpace_eq_of_length {s : String} (h : (trimSpace s).length = s.length) : trimSpace s = s := by
  have hsub : (trimSpace s).toList.Sublist s.toList := by
    rw [trimSpace, String.toList_ofList]
    exact (List.rdropWhile_prefix _ _).sublist.trans (List.dropWhile_suffix _).sublist
  rw [← String.length_toList, ← String.length_toList] at h
  exact String.toList_inj.mp (hsub.eq_of_length h)

lemma trimSpace_ne_empty {s : String} {c : Char} (hc : c ∈ s.toList) (hspace : isSpace c = false) :
    trimSpace s ≠ "" := by
  intro hempty
  obtain ⟨lead, trail, hs, hlead, htrail⟩ := exists_trimSpace s
  rw [hempty] at hs
  have hall : ∀ d ∈ s.toList, isSpace d = true := by
    intro d hd
    rw [hs] at hd
    rcases List.mem_append.mp hd with hd | hd
    · exact hlead d hd
    · exact htrail d hd
  rw [hall c hc] at hspace
  cases hspace

lemma ne_empty_of_trimSpace {s : String} (h : trimSpace s ≠ "") : s ≠ "" := by
  rintro rfl
  exact h (by decide)

end MailBaby.Lib
