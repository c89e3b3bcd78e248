import MailBaby.Lib.Encoding
import MailBaby.Lib.Text

/-!
# Header lines

`net/http` finds a header by the canonical form of its name, gRPC metadata by its lower-case form. For
the names that can occur in a request both find the same lines.
-/

namespace MailBaby.Lib

abbrev HeaderLines := List (String × String)

def isTokenChar (c : Char) : Bool :=
  c.toNat < 0x80 &&
    (('a' ≤ c && c ≤ 'z') || ('A' ≤ c && c ≤ 'Z') || ('0' ≤ c && c ≤ '9') ||
      ['!', '#', '$', '%', '&', '\'', '*', '+', '-', '.', '^', '_', '\x60', '|', '~'].contains c)

def isToken (name : String) : Bool := name.toList.all isTokenChar

def toUpperASCII (c : Char) : Char := if 'a' ≤ c ∧ c ≤ 'z' then Char.ofNat (c.toNat - 32) else c

def toLowerASCII (c : Char) : Char := if 'A' ≤ c ∧ c ≤ 'Z' then Char.ofNat (c.toNat + 32) else c

/-- Letters are upper case at the start and after a dash, and lower case elsewhere. -/
def canonicalChars : (upper : Bool) → List Char → List Char
  | _, [] => []
  | upper, c :: rest =>
    let c := if upper then toUpperASCII c else toLowerASCII c
    c :: canonicalChars (c = '-') rest

/-- `textproto.CanonicalMIMEHeaderKey`: what cannot be a header name is left as it is. -/
def canonicalHeaderKey (name : String) : String :=
  if isToken name then String.ofList (canonicalChars true name.toList) else name

def httpGet (lines : HeaderLines) (name : String) : String :=
  ((lines.find? fun l => canonicalHeaderKey l.1 = canonicalHeaderKey name).map (·.2)).getD ""

/-- The first value that `metadata.MD.Get` returns, empty if there is none. -/
def metadataGet (md : HeaderLines) (name : String) : String :=
  ((md.find? fun l => toLower l.1 = toLower name).map (·.2)).getD ""

section Tokens

lemma token_cases : ∀ k : Fin 128, isTokenChar (Char.ofNat k.val) = true →
    (toLowerRune (Char.ofNat k.val) = toLowerASCII (Char.ofNat k.val) ∧
      toLowerASCII (toUpperASCII (Char.ofNat k.val)) = toLowerASCII (Char.ofNat k.val) ∧
      toLowerASCII (toLowerASCII (Char.ofNat k.val)) = toLowerASCII (Char.ofNat k.val) ∧
      toUpperASCII (toLowerASCII (Char.ofNat k.val)) = toUpperASCII (Char.ofNat k.val)) ∧
      isTokenChar (toUpperASCII (Char.ofNat k.val)) = true ∧
        isTokenChar (toLowerASCII (Char.ofNat k.val)) = true := by
  decide +kernel

lemma char_cases {c : Char} (hc : isTokenChar c = true) :
    (toLowerRune c = toLowerASCII c ∧ toLowerASCII (toUpperASCII c) = toLowerASCII c ∧
      toLowerASCII (toLowerASCII c) = toLowerASCII c ∧ toUpperASCII (toLowerASCII c) = toUpperASCII c) ∧
      isTokenChar (toUpperASCII c) = true ∧ isTokenChar (toLowerASCII c) = true := by
  have hlt : c.toNat < 128 := of_decide_eq_true (Bool.and_eq_true_iff.mp hc).1
  have hk := token_cases ⟨c.toNat, hlt⟩
  rw [Char.ofNat_toNat] at hk
  exact hk hc

variable {text : List Char}

lemma map_toLowerASCII_canonicalChars (h : ∀ c ∈ text, isTokenChar c = true) (upper : Bool) :
    (canonicalChars upper text).map toLowerASCII = text.map toLowerASCII := by
  induction text generalizing upper with
  | nil => rfl
  | cons c text ih =>
    obtain ⟨hc, htext⟩ := List.forall_mem_cons.mp h
    obtain ⟨⟨-, hupper, hlower, -⟩, -⟩ := char_cases hc
    rw [canonicalChars, List.map_cons, List.map_cons, ih htext]
    cases upper
    · rw [if_neg Bool.false_ne_true, hlower]
    · rw [if_pos rfl, hupper]

lemma canonicalChars_map_toLowerASCII (h : ∀ c ∈ text, isTokenChar c = true) (upper : Bool) :
    canonicalChars upper (text.map toLowerASCII) = canonicalChars upper text := by
  induction text generalizing upper with
  | nil => rfl
  | cons c text ih =>
    obtain ⟨hc, htext⟩ := List.forall_mem_cons.mp h
    obtain ⟨⟨-, -, hlower, hupper⟩, -⟩ := char_cases hc
    rw [List.map_cons, canonicalChars, canonicalChars, hlower, hupper, ih htext]

lemma forall_mem_canonicalChars (h : ∀ c ∈ text, isTokenChar c = true) (upper : Bool) :
    ∀ c ∈ canonicalChars upper text, isTokenChar c = true := by
  induction text generalizing upper with
  | nil => exact fun _ hc => absurd hc (List.not_mem_nil)
  | cons c text ih =>
    obtain ⟨hc, htext⟩ := List.forall_mem_cons.mp h
    obtain ⟨-, hupper, hlower⟩ := char_cases hc
    rw [canonicalChars, List.forall_mem_cons]
    refine ⟨?_, ih htext _⟩
    cases upper
    · exact hlower
    · exact hupper

end Tokens

section Names

variable {a b : String}

lemma forall_isTokenChar (h : isToken a = true) : ∀ c ∈ a.toList, isTokenChar c = true := List.all_eq_true.mp h

lemma toList_toLower (h : isToken a = true) : (toLower a).toList = a.toList.map toLowerASCII := by
  rw [toLower, String.toList_ofList]
  exact List.map_congr_left fun c hc => (char_cases (forall_isTokenChar h c hc)).1.1

lemma isToken_toLower (h : isToken a = true) : isToken (toLower a) = true := by
  rw [isToken, toList_toLower h, List.all_eq_true]
  intro c hc
  obtain ⟨d, hd, rfl⟩ := List.mem_map.mp hc
  exact (char_cases (forall_isTokenChar h d hd)).2.2

lemma toLower_toLower (h : isToken a = true) : toLower (toLower a) = toLower a := by
  rw [← String.toList_inj, toList_toLower (isToken_toLower h), toList_toLower h, List.map_map]
  apply List.map_congr_left
  intro c hc
  obtain ⟨⟨-, -, hlower, -⟩, -⟩ := char_cases (forall_isTokenChar h c hc)
  exact hlower

lemma isToken_canonicalHeaderKey (h : isToken a = true) : isToken (canonicalHeaderKey a) = true := by
  rw [canonicalHeaderKey, if_pos h, isToken, String.toList_ofList, List.all_eq_true]
  exact forall_mem_canonicalChars (forall_isTokenChar h) true

theorem canonicalHeaderKey_eq_iff (ha : isToken a = true) (hb : isToken b = true) :
    canonicalHeaderKey a = canonicalHeaderKey b ↔ toLower a = toLower b := by
  rw [← String.toList_inj, ← String.toList_inj, toList_toLower ha, toList_toLower hb, canonicalHeaderKey,
    canonicalHeaderKey, if_pos ha, if_pos hb, String.toList_ofList, String.toList_ofList]
  constructor
  · intro h
    rw [← map_toLowerASCII_canonicalChars (forall_isTokenChar ha) true, h,
      map_toLowerASCII_canonicalChars (forall_isTokenChar hb) true]
  · intro h
    rw [← canonicalChars_map_toLowerASCII (forall_isTokenChar ha) true, h,
      canonicalChars_map_toLowerASCII (forall_isTokenChar hb) true]

lemma canonicalHeaderKey_ne (ha : isToken a = true) (hb : isToken b = false) :
    canonicalHeaderKey a ≠ canonicalHeaderKey b := by
  intro h
  have htoken := isToken_canonicalHeaderKey ha
  rw [h, canonicalHeaderKey, if_neg (by rw [hb]; exact Bool.false_ne_true), hb] at htoken
  cases htoken

variable {lines : HeaderLines}

theorem httpGet_eq_metadataGet (hlines : ∀ l ∈ lines, isToken l.1 = true) (ha : isToken a = true) :
    httpGet lines a = metadataGet lines a := by
  have hfind : lines.find? (fun l => canonicalHeaderKey l.1 = canonicalHeaderKey a) =
      lines.find? fun l => toLower l.1 = toLower a := by
    induction lines with
    | nil => rfl
    | cons l lines ih =>
      obtain ⟨hl, hrest⟩ := List.forall_mem_cons.mp hlines
      rw [List.find?_cons, List.find?_cons, ih hrest, decide_eq_decide.mpr (canonicalHeaderKey_eq_iff hl ha)]
  rw [httpGet, metadataGet, hfind]

lemma httpGet_of_not_isToken (hlines : ∀ l ∈ lines, isToken l.1 = true) (ha : isToken a = false) :
    httpGet lines a = "" := by
  have hfind : lines.find? (fun l => canonicalHeaderKey l.1 = canonicalHeaderKey a) = none := by
    rw [List.find?_eq_none]
    intro l hl
    rw [decide_eq_true_eq]
    exact canonicalHeaderKey_ne (hlines l hl) ha
  rw [httpGet, hfind]
  rfl

end Names

end MailBaby.Lib
