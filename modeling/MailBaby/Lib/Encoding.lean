import Mathlib.Tactic.Common

/-!
# Text encodings

UTF-8, with a decoder that reads every byte that starts no valid sequence as the replacement
character, padded base64, encoded words, and timestamps.
-/

namespace MailBaby.Lib

lemma char_induction {P : Char → Prop} (hascii : ∀ k : Fin 128, P (Char.ofNat k.val))
    (hother : ∀ c : Char, 128 ≤ c.toNat → P c) (c : Char) : P c := by
  by_cases hc : c.toNat < 128
  · have hk := hascii ⟨c.toNat, hc⟩
    rwa [Char.ofNat_toNat] at hk
  · exact hother c (Nat.le_of_not_lt hc)

/-! ### UTF-8 -/

section Utf8

variable (b c d e : UInt8)

def isContinuation : Bool := 0x80 ≤ b && b ≤ 0xBF

def isTwoBytes : Bool := 0xC2 ≤ b && b ≤ 0xDF && isContinuation c

def isThreeBytes : Bool :=
  0xE0 ≤ b && b ≤ 0xEF && (if b = 0xE0 then 0xA0 else 0x80) ≤ c &&
    c ≤ (if b = 0xED then 0x9F else 0xBF) && isContinuation d

def isFourBytes : Bool :=
  0xF0 ≤ b && b ≤ 0xF4 && (if b = 0xF0 then 0x90 else 0x80) ≤ c &&
    c ≤ (if b = 0xF4 then 0x8F else 0xBF) && isContinuation d && isContinuation e

def rune₂ : Char := Char.ofNat (b.toNat % 32 * 64 + c.toNat % 64)

def rune₃ : Char := Char.ofNat ((b.toNat % 16 * 64 + c.toNat % 64) * 64 + d.toNat % 64)

def rune₄ : Char :=
  Char.ofNat (((b.toNat % 8 * 64 + c.toNat % 64) * 64 + d.toNat % 64) * 64 + e.toNat % 64)

def replacementChar : Char := '�'

end Utf8

def runes : List UInt8 → List Char
  | [] => []
  | b :: rest =>
    if b < 0x80 then Char.ofNat b.toNat :: runes rest
    else match rest with
      | c :: d :: e :: rest =>
        if isTwoBytes b c then rune₂ b c :: runes (d :: e :: rest)
        else if isThreeBytes b c d then rune₃ b c d :: runes (e :: rest)
        else if isFourBytes b c d e then rune₄ b c d e :: runes rest
        else replacementChar :: runes (c :: d :: e :: rest)
      | [c, d] =>
        if isTwoBytes b c then rune₂ b c :: runes [d]
        else if isThreeBytes b c d then [rune₃ b c d]
        else replacementChar :: runes [c, d]
      | [c] => if isTwoBytes b c then [rune₂ b c] else replacementChar :: runes [c]
      | [] => [replacementChar]
termination_by structural bytes => bytes

lemma length_runes_le (bytes : List UInt8) : (runes bytes).length ≤ bytes.length := by
  fun_induction runes bytes <;> simp only [List.length_cons, List.length_nil] at * <;> omega

def utf8 (text : List Char) : List UInt8 := text.flatMap String.utf8EncodeChar

section Runes

variable {b c d e : UInt8} (rest : List UInt8)

lemma runes_one (h : b < 0x80) : runes (b :: rest) = Char.ofNat b.toNat :: runes rest := by
  cases rest with
  | nil => simp only [runes, h, if_true]
  | cons c rest =>
    cases rest with
    | nil => simp only [runes, h, if_true]
    | cons d rest => cases rest <;> simp only [runes, h, if_true]

lemma isTwoBytes_eq_false (h : 0xE0 ≤ b) (c : UInt8) : isTwoBytes b c = false := by
  have hb : ¬b ≤ 0xDF := by
    rw [UInt8.le_iff_toNat_le] at h ⊢
    exact Nat.not_le.mpr h
  rw [isTwoBytes, decide_eq_false hb, Bool.and_false, Bool.false_and]

lemma isThreeBytes_eq_false (h : 0xF0 ≤ b) (c d : UInt8) : isThreeBytes b c d = false := by
  have hb : ¬b ≤ 0xEF := by
    rw [UInt8.le_iff_toNat_le] at h ⊢
    exact Nat.not_le.mpr h
  rw [isThreeBytes, decide_eq_false hb, Bool.and_false, Bool.false_and, Bool.false_and, Bool.false_and]

lemma not_ascii {n : UInt8} (hn : 0x80 ≤ n) (h : n ≤ b) : ¬b < 0x80 := by
  rw [UInt8.le_iff_toNat_le] at h hn
  rw [UInt8.lt_iff_toNat_lt, Nat.not_lt]
  exact Nat.le_trans hn h

lemma runes_two (h : isTwoBytes b c = true) : runes (b :: c :: rest) = rune₂ b c :: runes rest := by
  have hb : ¬b < 0x80 := by
    simp only [isTwoBytes, Bool.and_eq_true, decide_eq_true_eq] at h
    exact not_ascii (by decide) h.1.1
  cases rest with
  | nil => simp only [runes, hb, if_false, h, if_true]
  | cons d rest => cases rest <;> simp only [runes, hb, if_false, h, if_true]

lemma runes_three (h : isThreeBytes b c d = true) :
    runes (b :: c :: d :: rest) = rune₃ b c d :: runes rest := by
  have hfirst : 0xE0 ≤ b := by
    simp only [isThreeBytes, Bool.and_eq_true, decide_eq_true_eq] at h
    exact h.1.1.1.1
  have hb : ¬b < 0x80 := not_ascii (by decide) hfirst
  have htwo := isTwoBytes_eq_false hfirst c
  cases rest with
  | nil => simp only [runes, hb, if_false, htwo, Bool.false_eq_true, h, if_true]
  | cons e rest => simp only [runes, hb, if_false, htwo, Bool.false_eq_true, h, if_true]

lemma runes_four (h : isFourBytes b c d e = true) :
    runes (b :: c :: d :: e :: rest) = rune₄ b c d e :: runes rest := by
  have hfirst : 0xF0 ≤ b := by
    simp only [isFourBytes, Bool.and_eq_true, decide_eq_true_eq] at h
    exact h.1.1.1.1.1
  have hb : ¬b < 0x80 := not_ascii (by decide) hfirst
  have hthree : 0xE0 ≤ b := by
    rw [UInt8.le_iff_toNat_le] at hfirst ⊢
    exact Nat.le_trans (by decide) hfirst
  simp only [runes, hb, if_false, isTwoBytes_eq_false hthree c, Bool.false_eq_true,
    isThreeBytes_eq_false hfirst c d, h, if_true]

end Runes

lemma toNat_byte {n : Nat} (h : n < 256) : (UInt8.ofNat n).toNat = n := by
  rw [UInt8.toNat_ofNat']
  exact Nat.mod_eq_of_lt h

lemma toNat_continuation (v : Nat) : (UInt8.ofNat (v % 64 + 128)).toNat = v % 64 + 128 :=
  toNat_byte (by omega)

section Encoded

variable {v : Nat} (rest : List UInt8)

lemma runes_encoded₂ (hlo : 127 < v) (hhi : v ≤ 2047) :
    runes (UInt8.ofNat (v / 64 % 32 + 192) :: UInt8.ofNat (v % 64 + 128) :: rest) =
      Char.ofNat v :: runes rest := by
  have hb : (UInt8.ofNat (v / 64 % 32 + 192)).toNat = v / 64 % 32 + 192 := toNat_byte (by omega)
  have hc := toNat_continuation v
  have htwo : isTwoBytes (UInt8.ofNat (v / 64 % 32 + 192)) (UInt8.ofNat (v % 64 + 128)) = true := by
    simp only [isTwoBytes, isContinuation, Bool.and_eq_true, decide_eq_true_eq, UInt8.le_iff_toNat_le,
      hb, hc, UInt8.reduceToNat]
    omega
  have hrune : (v / 64 % 32 + 192) % 32 * 64 + (v % 64 + 128) % 64 = v := by omega
  rw [runes_two rest htwo, rune₂, hb, hc, hrune]

lemma runes_encoded₃ (hlo : 2047 < v) (hhi : v ≤ 65535) (hvalid : v < 0xD800 ∨ 0xDFFF < v) :
    runes (UInt8.ofNat (v / 4096 % 16 + 224) :: UInt8.ofNat (v / 64 % 64 + 128) ::
      UInt8.ofNat (v % 64 + 128) :: rest) = Char.ofNat v :: runes rest := by
  have hrune : ((v / 4096 % 16 + 224) % 16 * 64 + (v / 64 % 64 + 128) % 64) * 64 + (v % 64 + 128) % 64 = v := by
    omega
  have hb : (UInt8.ofNat (v / 4096 % 16 + 224)).toNat = v / 4096 % 16 + 224 := toNat_byte (by omega)
  have hc := toNat_continuation (v / 64)
  have hd := toNat_continuation v
  have hthree : isThreeBytes (UInt8.ofNat (v / 4096 % 16 + 224)) (UInt8.ofNat (v / 64 % 64 + 128))
      (UInt8.ofNat (v % 64 + 128)) = true := by
    simp only [isThreeBytes, isContinuation, Bool.and_eq_true, decide_eq_true_eq, UInt8.le_iff_toNat_le,
      ← UInt8.toNat_inj, apply_ite UInt8.toNat, hb, hc, hd, UInt8.reduceToNat]
    split_ifs <;> omega
  rw [runes_three rest hthree, rune₃, hb, hc, hd, hrune]

lemma runes_encoded₄ (hlo : 65535 < v) (hhi : v < 0x110000) :
    runes (UInt8.ofNat (v / 262144 % 8 + 240) :: UInt8.ofNat (v / 4096 % 64 + 128) ::
      UInt8.ofNat (v / 64 % 64 + 128) :: UInt8.ofNat (v % 64 + 128) :: rest) = Char.ofNat v :: runes rest := by
  have hrune : (((v / 262144 % 8 + 240) % 8 * 64 + (v / 4096 % 64 + 128) % 64) * 64 +
      (v / 64 % 64 + 128) % 64) * 64 + (v % 64 + 128) % 64 = v := by
    omega
  have hb : (UInt8.ofNat (v / 262144 % 8 + 240)).toNat = v / 262144 % 8 + 240 := toNat_byte (by omega)
  have hc := toNat_continuation (v / 4096)
  have hd := toNat_continuation (v / 64)
  have he := toNat_continuation v
  have hfour : isFourBytes (UInt8.ofNat (v / 262144 % 8 + 240)) (UInt8.ofNat (v / 4096 % 64 + 128))
      (UInt8.ofNat (v / 64 % 64 + 128)) (UInt8.ofNat (v % 64 + 128)) = true := by
    simp only [isFourBytes, isContinuation, Bool.and_eq_true, decide_eq_true_eq, UInt8.le_iff_toNat_le,
      ← UInt8.toNat_inj, apply_ite UInt8.toNat, hb, hc, hd, he, UInt8.reduceToNat]
    split_ifs <;> omega
  rw [runes_four rest hfour, rune₄, hb, hc, hd, he, hrune]

end Encoded

lemma runes_utf8EncodeChar (c : Char) (rest : List UInt8) :
    runes (String.utf8EncodeChar c ++ rest) = c :: runes rest := by
  have hvalid : c.toNat < 0xD800 ∨ 0xDFFF < c.toNat ∧ c.toNat < 0x110000 := c.valid
  have hchar : Char.ofNat c.toNat = c := Char.ofNat_toNat c
  generalize hv : c.toNat = v at hvalid hchar
  have hval : c.val.toNat = v := hv
  unfold String.utf8EncodeChar
  simp only [hval]
  split_ifs with h₁ h₂ h₃
  · have hb : (UInt8.ofNat v).toNat = v := toNat_byte (by omega)
    have hlt : UInt8.ofNat v < 0x80 := by
      rw [UInt8.lt_iff_toNat_lt, hb]
      exact Nat.lt_succ_of_le h₁
    rw [List.singleton_append, runes_one rest hlt, hb, hchar]
  · rw [← hchar]
    exact runes_encoded₂ rest (Nat.lt_of_not_le h₁) h₂
  · rw [← hchar]
    exact runes_encoded₃ rest (Nat.lt_of_not_le h₂) h₃ (hvalid.imp_right And.left)
  · rw [← hchar]
    exact runes_encoded₄ rest (Nat.lt_of_not_le h₃) (by omega)

theorem runes_utf8 (text : List Char) : runes (utf8 text) = text := by
  induction text with
  | nil => rfl
  | cons c text ih =>
    rw [utf8, List.flatMap_cons, runes_utf8EncodeChar]
    exact congrArg (c :: ·) ih

/-! ### Hexadecimal digits -/

namespace Hex

def digit (n : Nat) : Char := if n < 10 then Char.ofNat (48 + n) else Char.ofNat (87 + n)

def encode (data : List UInt8) : List Char := data.flatMap fun b => [digit (b.toNat / 16), digit (b.toNat % 16)]

lemma length_encode (data : List UInt8) : (encode data).length = 2 * data.length := by
  induction data with
  | nil => rfl
  | cons b data ih =>
    have hcons : (encode (b :: data)).length = 2 + (encode data).length := List.length_append
    rw [hcons, ih, List.length_cons]
    omega

lemma forall_mem_encode {P : Char → Prop} (h : ∀ k : Fin 16, P (digit k.val)) (data : List UInt8) :
    ∀ c ∈ encode data, P c := by
  intro c hc
  obtain ⟨b, -, hc⟩ := List.mem_flatMap.mp hc
  have hb := b.toNat_lt
  simp only [List.mem_cons, List.not_mem_nil, or_false] at hc
  obtain rfl | rfl := hc
  · exact h ⟨b.toNat / 16, by omega⟩
  · exact h ⟨b.toNat % 16, by omega⟩

lemma length_utf8_encode (data : List UInt8) : (utf8 (encode data)).length = 2 * data.length := by
  have hone : ∀ c ∈ encode data, (String.utf8EncodeChar c).length = 1 := forall_mem_encode (by decide) data
  rw [utf8, List.length_flatMap, List.map_congr_left hone, List.map_const', List.sum_replicate_nat,
    length_encode, Nat.mul_one]

end Hex

/-! ### Base64 -/

namespace Base64

def digit (n : Nat) : Char :=
  if n < 26 then Char.ofNat (n + 65)
  else if n < 52 then Char.ofNat (n + 71)
  else if n < 62 then Char.ofNat (n - 4)
  else if n = 62 then '+' else '/'

def value (c : Char) : Option Nat :=
  if 'A' ≤ c ∧ c ≤ 'Z' then some (c.toNat - 65)
  else if 'a' ≤ c ∧ c ≤ 'z' then some (c.toNat - 71)
  else if '0' ≤ c ∧ c ≤ '9' then some (c.toNat + 4)
  else if c = '+' then some 62
  else if c = '/' then some 63
  else none

def encode : List UInt8 → List Char
  | a :: b :: c :: rest =>
    digit (a.toNat / 4) :: digit (a.toNat % 4 * 16 + b.toNat / 16) ::
      digit (b.toNat % 16 * 4 + c.toNat / 64) :: digit (c.toNat % 64) :: encode rest
  | [a, b] =>
    [digit (a.toNat / 4), digit (a.toNat % 4 * 16 + b.toNat / 16), digit (b.toNat % 16 * 4), '=']
  | [a] => [digit (a.toNat / 4), digit (a.toNat % 4 * 16), '=', '=']
  | [] => []

def byte₁ (v w : Nat) : UInt8 := UInt8.ofNat (v * 4 + w / 16)
def byte₂ (v w : Nat) : UInt8 := UInt8.ofNat (v % 16 * 16 + w / 4)
def byte₃ (v w : Nat) : UInt8 := UInt8.ofNat (v % 4 * 64 + w)

/-- Groups of four digits; padding ends the text. -/
def decodeGroups : List Char → Option (List UInt8)
  | [] => some []
  | [a, b, '=', '='] => do
    let a ← value a
    let b ← value b
    some [byte₁ a b]
  | [a, b, c, '='] => do
    let a ← value a
    let b ← value b
    let c ← value c
    some [byte₁ a b, byte₂ b c]
  | a :: b :: c :: d :: rest => do
    let a ← value a
    let b ← value b
    let c ← value c
    let d ← value d
    let bytes ← decodeGroups rest
    some (byte₁ a b :: byte₂ b c :: byte₃ c d :: bytes)
  | _ => none

/-- Line breaks are skipped. -/
def decode (text : List Char) : Option (List UInt8) :=
  decodeGroups (text.filter fun c => c ≠ '\r' ∧ c ≠ '\n')

lemma length_decodeGroups_le {text : List Char} {bytes : List UInt8} (h : decodeGroups text = some bytes) :
    bytes.length ≤ text.length := by
  fun_induction decodeGroups text generalizing bytes with
  | case1 => simp_all
  | case2 a b =>
    simp only [Option.bind_eq_bind, Option.bind_eq_some_iff, Option.some.injEq] at h
    obtain ⟨_, -, _, -, rfl⟩ := h
    simp
  | case3 a b c =>
    simp only [Option.bind_eq_bind, Option.bind_eq_some_iff, Option.some.injEq] at h
    obtain ⟨_, -, _, -, _, -, rfl⟩ := h
    simp
  | case4 a b c d rest hpad hpads ih =>
    simp only [Option.bind_eq_bind, Option.bind_eq_some_iff, Option.some.injEq] at h
    obtain ⟨_, -, _, -, _, -, _, -, _, hrest, rfl⟩ := h
    have hlen := ih hrest
    simp only [List.length_cons]
    omega
  | case5 => cases h

lemma length_decode_le {text : List Char} {bytes : List UInt8} (h : decode text = some bytes) :
    bytes.length ≤ text.length :=
  Nat.le_trans (length_decodeGroups_le h) (List.length_filter_le _ _)

lemma value_digit {n : Nat} (h : n < 64) : value (digit n) = some n := by
  have hall : ∀ k : Fin 64, value (digit k.val) = some k.val := by decide
  exact hall ⟨n, h⟩

lemma digit_induction {P : Char → Prop} (h : ∀ k : Fin 64, P (digit k.val)) (n : Nat) : P (digit n) := by
  by_cases hn : n < 64
  · exact h ⟨n, hn⟩
  · have hlast : digit n = digit 63 := by
      rw [digit, if_neg (by omega), if_neg (by omega), if_neg (by omega), if_neg (by omega)]
      rfl
    rw [hlast]
    exact h 63

lemma encode_ne_nil {data : List UInt8} (h : data ≠ []) : encode data ≠ [] := by
  fun_cases encode data with
  | case1 => exact List.cons_ne_nil _ _
  | case2 => exact List.cons_ne_nil _ _
  | case3 => exact List.cons_ne_nil _ _
  | case4 => exact absurd rfl h

lemma digit_ne_pad (n : Nat) : digit n ≠ '=' := by
  have hall : ∀ k : Fin 64, digit k.val ≠ '=' := by decide
  exact digit_induction (P := fun c => c ≠ '=') hall n

lemma mem_encode {data : List UInt8} {c : Char} (h : c ∈ encode data) : c = '=' ∨ ∃ n, c = digit n := by
  fun_induction encode data with
  | case1 a b c' rest ih =>
    simp only [List.mem_cons] at h
    rcases h with h | h | h | h | h
    · exact .inr ⟨_, h⟩
    · exact .inr ⟨_, h⟩
    · exact .inr ⟨_, h⟩
    · exact .inr ⟨_, h⟩
    · exact ih h
  | case2 a b =>
    simp only [List.mem_cons, List.not_mem_nil, or_false] at h
    rcases h with h | h | h | h
    · exact .inr ⟨_, h⟩
    · exact .inr ⟨_, h⟩
    · exact .inr ⟨_, h⟩
    · exact .inl h
  | case3 a =>
    simp only [List.mem_cons, List.not_mem_nil, or_false] at h
    rcases h with h | h | h | h
    · exact .inr ⟨_, h⟩
    · exact .inr ⟨_, h⟩
    · exact .inl h
    · exact .inl h
  | case4 => cases h

section RoundTrip

variable (a b : UInt8) {k m : Nat}

lemma byte₁_eq (hk : k < 16) : byte₁ (a.toNat / 4) (a.toNat % 4 * 16 + k) = a := by
  have hsum : a.toNat / 4 * 4 + (a.toNat % 4 * 16 + k) / 16 = a.toNat := by omega
  rw [byte₁, hsum, UInt8.ofNat_toNat]

lemma byte₂_eq (hk : k < 4) : byte₂ (m * 16 + a.toNat / 16) (a.toNat % 16 * 4 + k) = a := by
  have hlt := a.toNat_lt
  have hsum : (m * 16 + a.toNat / 16) % 16 * 16 + (a.toNat % 16 * 4 + k) / 4 = a.toNat := by omega
  rw [byte₂, hsum, UInt8.ofNat_toNat]

lemma byte₃_eq : byte₃ (m * 4 + a.toNat / 64) (a.toNat % 64) = a := by
  have hlt := a.toNat_lt
  have hsum : (m * 4 + a.toNat / 64) % 4 * 64 + a.toNat % 64 = a.toNat := by omega
  rw [byte₃, hsum, UInt8.ofNat_toNat]

lemma decodeGroups_cons {n₁ n₂ n₃ n₄ : Nat} (h₁ : n₁ < 64) (h₂ : n₂ < 64) (h₃ : n₃ < 64) (h₄ : n₄ < 64)
    (rest : List Char) :
    decodeGroups (digit n₁ :: digit n₂ :: digit n₃ :: digit n₄ :: rest) =
      (decodeGroups rest).map fun bytes => byte₁ n₁ n₂ :: byte₂ n₂ n₃ :: byte₃ n₃ n₄ :: bytes := by
  rw [decodeGroups.eq_4]
  · simp only [value_digit h₁, value_digit h₂, value_digit h₃, value_digit h₄, Option.bind_eq_bind,
      Option.bind_some]
    cases decodeGroups rest <;> rfl
  · intro _ hpad
    exact absurd hpad (digit_ne_pad n₄)
  · intro hpad
    exact absurd hpad (digit_ne_pad n₄)

theorem decodeGroups_encode (data : List UInt8) : decodeGroups (encode data) = some data := by
  fun_induction encode data with
  | case1 a b c rest ih =>
    have ha := a.toNat_lt
    have hb := b.toNat_lt
    have hc := c.toNat_lt
    rw [decodeGroups_cons (by omega) (by omega) (by omega) (by omega), ih, byte₁_eq a (by omega),
      byte₂_eq b (by omega), byte₃_eq c]
    rfl
  | case2 a b =>
    have ha := a.toNat_lt
    have hb := b.toNat_lt
    have hpad : b.toNat % 16 * 4 = b.toNat % 16 * 4 + 0 := rfl
    rw [decodeGroups.eq_3 _ _ _ (digit_ne_pad _), value_digit (by omega), value_digit (by omega),
      value_digit (by omega), hpad]
    simp only [Option.bind_eq_bind, Option.bind_some]
    rw [byte₁_eq a (by omega), byte₂_eq b (by omega)]
  | case3 a =>
    have ha := a.toNat_lt
    have hpad : a.toNat % 4 * 16 = a.toNat % 4 * 16 + 0 := rfl
    rw [decodeGroups.eq_2, value_digit (by omega), value_digit (by omega), hpad]
    simp only [Option.bind_eq_bind, Option.bind_some]
    rw [byte₁_eq a (by omega)]
  | case4 => rfl

theorem decode_encode (data : List UInt8) : decode (encode data) = some data := by
  have hdigits : ∀ k : Fin 64, digit k.val ≠ '\r' ∧ digit k.val ≠ '\n' := by decide
  have hkeep : (encode data).filter (fun c => c ≠ '\r' ∧ c ≠ '\n') = encode data := by
    rw [List.filter_eq_self]
    intro c hc
    apply decide_eq_true
    rcases mem_encode hc with rfl | ⟨n, rfl⟩
    · decide
    · exact digit_induction (P := fun c => c ≠ '\r' ∧ c ≠ '\n') hdigits n
  rw [decode, hkeep, decodeGroups_encode]

end RoundTrip

end Base64

/-! ### Encoded words -/

namespace EncodedWord

/-- Cuts a text so that every piece has at most `limit` bytes; `size` counts those of the piece that
was begun, which is kept last character first. -/
def split (limit : Nat) : (size : Nat) → (begun text : List Char) → List (List Char)
  | _, begun, [] => [begun.reverse]
  | size, begun, c :: text =>
    if size + c.utf8Size ≤ limit then split limit (size + c.utf8Size) (c :: begun) text
    else begun.reverse :: split limit c.utf8Size [c] text

def opening : List Char := "=?UTF-8?b?".toList

def word (text : List Char) : List Char := opening ++ (Base64.encode (utf8 text) ++ ['?', '='])

/-- `mime.BEncoding.Encode("UTF-8", text)`: text that needs no encoding is kept, and what does not fit
into one encoded word is spread over several. -/
def encode (text : List Char) : List Char :=
  if text.all fun c => (' ' ≤ c && c ≤ '~') || c = '\t' then text
  else if ((utf8 text).length + 2) / 3 * 4 ≤ 63 then word text
  else [' '].intercalate ((split 45 0 [] text).map word)

end EncodedWord

/-! ### Decimal numbers and timestamps -/

def isDigit (c : Char) : Bool := '0' ≤ c && c ≤ '9'

def digits (text : List Char) : Nat := text.foldl (fun n c => n * 10 + (c.toNat - 48)) 0

namespace Timestamp

def number (n : Nat) (text : List Char) : Option (Nat × List Char) :=
  if (text.take n).length = n ∧ (text.take n).all isDigit then some (digits (text.take n), text.drop n)
  else none

def expect (c : Char) : List Char → Option (List Char)
  | d :: rest => if d = c then some rest else none
  | [] => none

/-- The second digit of an hour may be missing. -/
def hour (text : List Char) : Option (Nat × List Char) := number 2 text <|> number 1 text

/-- A fraction of a second in nanoseconds, of which nine digits count. -/
def fraction (text : List Char) : Nat × List Char :=
  match text with
  | sep :: rest =>
    let read := rest.takeWhile isDigit
    if (sep = '.' ∨ sep = ',') ∧ read ≠ [] then
      (digits ((read ++ List.replicate 9 '0').take 9), rest.drop read.length)
    else (0, text)
  | [] => (0, [])

/-- The seconds by which a zone is ahead of UTC. -/
def zone : List Char → Option (Int × List Char)
  | 'Z' :: rest => some (0, rest)
  | sign :: rest => do
    let (hh, rest) ← number 2 rest
    let rest ← expect ':' rest
    let (mm, rest) ← number 2 rest
    if hh ≤ 24 ∧ mm ≤ 60 then
      let offset : Int := (hh * 60 + mm) * 60
      if sign = '+' then some (offset, rest) else if sign = '-' then some (-offset, rest) else none
    else none
  | [] => none

def isLeap (year : Nat) : Bool := year % 4 = 0 && (year % 100 ≠ 0 || year % 400 = 0)

def daysIn (year month : Nat) : Nat :=
  if month = 2 then if isLeap year then 29 else 28
  else if month = 4 ∨ month = 6 ∨ month = 9 ∨ month = 11 then 30
  else 31

/-- The days from the first of January of year 1; year 0 is a leap year. -/
def dayNumber (year month day : Nat) : Int :=
  let before : Int := (year : Int) - 1
  let days : Nat := (List.range' 1 (month - 1)).foldl (fun days m => days + daysIn year m) (day - 1)
  before * 365 + before / 4 - before / 100 + before / 400 + days

/-- `time.Parse` with the layout of RFC 3339: the nanoseconds since the zero time. -/
def parse (text : List Char) : Option Int := do
  let (year, rest) ← number 4 text
  let rest ← expect '-' rest
  let (month, rest) ← number 2 rest
  let rest ← expect '-' rest
  let (day, rest) ← number 2 rest
  let rest ← expect 'T' rest
  let (hh, rest) ← hour rest
  let rest ← expect ':' rest
  let (mm, rest) ← number 2 rest
  let rest ← expect ':' rest
  let (ss, rest) ← number 2 rest
  let (nanos, rest) := fraction rest
  let (offset, rest) ← zone rest
  if rest = [] ∧ 1 ≤ month ∧ month ≤ 12 ∧ 1 ≤ day ∧ day ≤ daysIn year month ∧ hh < 24 ∧ mm < 60 ∧ ss < 60
  then
    let seconds : Int := dayNumber year month day * 86400 + (hh * 3600 + mm * 60 + ss : Nat) - offset
    some (seconds * 1000000000 + nanos)
  else none

end Timestamp

end MailBaby.Lib
