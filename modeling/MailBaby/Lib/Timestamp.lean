import Mathlib.Algebra.Group.Nat.Defs
import Mathlib.Data.List.DropRight
import MailBaby.Lib.Encoding

/-!
# Writing timestamps

Times are written the way RFC 3339 asks for, in a zone that is a whole number of minutes ahead of UTC,
and reading such a text gives the time back.
-/

namespace MailBaby.Lib

def pad : (width n : Nat) → List Char
  | 0, _ => []
  | width + 1, n => pad width (n / 10) ++ [Char.ofNat (48 + n % 10)]

lemma length_pad (width n : Nat) : (pad width n).length = width := by
  induction width generalizing n with
  | zero => rfl
  | succ width ih => rw [pad, List.length_append, ih, List.length_singleton]

lemma digit_mod_ten {P : Char → Prop} (h : ∀ k : Fin 10, P (Char.ofNat (48 + k.val))) (n : Nat) :
    P (Char.ofNat (48 + n % 10)) :=
  h ⟨n % 10, Nat.mod_lt n (by decide)⟩

lemma isDigit_of_mem_pad {width n : Nat} {c : Char} (h : c ∈ pad width n) : isDigit c = true := by
  induction width generalizing n with
  | zero => cases h
  | succ width ih =>
    rcases List.mem_append.mp h with h | h
    · exact ih h
    · rw [List.mem_singleton.mp h]
      exact digit_mod_ten (P := fun c => isDigit c = true) (by decide) n

lemma digits_pad (width : Nat) {n : Nat} (h : n < 10 ^ width) : digits (pad width n) = n := by
  induction width generalizing n with
  | zero =>
    have hn : n = 0 := Nat.lt_one_iff.mp h
    rw [hn]
    rfl
  | succ width ih =>
    have hlt : n / 10 < 10 ^ width := by
      rw [Nat.div_lt_iff_lt_mul (by decide)]
      rwa [Nat.pow_succ] at h
    have hdigit : ∀ k : Fin 10, (Char.ofNat (48 + k.val)).toNat - 48 = k.val := by decide
    have hlast := hdigit ⟨n % 10, Nat.mod_lt n (by decide)⟩
    have hinit := ih hlt
    unfold digits at hinit ⊢
    rw [pad, List.foldl_append, hinit, List.foldl_cons, List.foldl_nil, hlast]
    exact Nat.div_add_mod' n 10

lemma digit_cases {P : Char → Prop} (h : ∀ k : Fin 10, P (Char.ofNat (48 + k.val))) {c : Char}
    (hc : isDigit c = true) : P c := by
  simp only [isDigit, Bool.and_eq_true, decide_eq_true_eq] at hc
  have hlo : 48 ≤ c.toNat := hc.1
  have hhi : c.toNat ≤ 57 := hc.2
  have hk := h ⟨c.toNat - 48, by omega⟩
  rwa [Nat.add_sub_cancel' hlo, Char.ofNat_toNat] at hk

namespace Timestamp

/-! ### The calendar -/

/-- The year of a day, counted from the first of January of year 1, and the days of the year before it.
Every fourth century, every century but the last of four, and every fourth year is a day longer. -/
def yearDay (days : Int) : Int × Nat :=
  let n₄₀₀ := days / 146097
  let inEra := (days % 146097).toNat
  let n₁₀₀ := min (inEra / 36524) 3
  let inCentury := inEra - n₁₀₀ * 36524
  let n₄ := inCentury / 1461
  let inCycle := inCentury - n₄ * 1461
  let n₁ := min (inCycle / 365) 3
  (n₄₀₀ * 400 + (n₁₀₀ * 100 + n₄ * 4 + n₁ : Nat) + 1, inCycle - n₁ * 365)

/-- The month and day of a day of the year, from `month` on. -/
def monthDay (year : Nat) : (months month yearDay : Nat) → Nat × Nat
  | 0, month, yearDay => (month, yearDay + 1)
  | months + 1, month, yearDay =>
    if yearDay < daysIn year month then (month, yearDay + 1)
    else monthDay year months (month + 1) (yearDay - daysIn year month)

def daysBefore (year month : Nat) : Nat :=
  (List.range' 1 (month - 1)).foldl (fun days m => days + daysIn year m) 0

lemma daysBefore_succ (year : Nat) {month : Nat} (h : 1 ≤ month) :
    daysBefore year (month + 1) = daysBefore year month + daysIn year month := by
  obtain ⟨k, rfl⟩ := Nat.exists_eq_add_of_le' h
  unfold daysBefore
  rw [Nat.add_sub_cancel, Nat.add_sub_cancel, List.range'_concat, List.foldl_append, List.foldl_cons,
    List.foldl_nil, Nat.one_mul, Nat.add_comm 1 k]

lemma daysBefore_end (year : Nat) : daysBefore year 13 = if isLeap year then 366 else 365 := by
  have hrange : List.range' 1 (13 - 1) = [1, 2, 3, 4, 5, 6, 7, 8, 9, 10, 11, 12] := by decide
  rw [daysBefore, hrange]
  simp only [List.foldl_cons, List.foldl_nil, daysIn]
  cases isLeap year <;> rfl

lemma foldl_daysIn (year : Nat) (months : List Nat) (init : Nat) :
    months.foldl (fun days m => days + daysIn year m) init =
      months.foldl (fun days m => days + daysIn year m) 0 + init := by
  induction months generalizing init with
  | nil => simp
  | cons month months ih =>
    rw [List.foldl_cons, List.foldl_cons, ih (init + _), ih (0 + _)]
    omega

def daysBeforeYear (year : Int) : Int := (year - 1) * 365 + (year - 1) / 4 - (year - 1) / 100 + (year - 1) / 400

lemma dayNumber_eq (year month day : Nat) :
    dayNumber year month day = daysBeforeYear year + (daysBefore year month + (day - 1) : Nat) := by
  unfold dayNumber daysBefore
  dsimp only
  rw [foldl_daysIn]
  rfl

lemma monthDay_spec (year months month yearDay : Nat) (hmonth : 1 ≤ month)
    (h : daysBefore year month + yearDay < daysBefore year (month + months + 1)) :
    month ≤ (monthDay year months month yearDay).1 ∧
      (monthDay year months month yearDay).1 ≤ month + months ∧
      1 ≤ (monthDay year months month yearDay).2 ∧
      (monthDay year months month yearDay).2 ≤ daysIn year (monthDay year months month yearDay).1 ∧
      daysBefore year (monthDay year months month yearDay).1 +
        ((monthDay year months month yearDay).2 - 1) = daysBefore year month + yearDay := by
  induction months generalizing month yearDay with
  | zero =>
    rw [Nat.add_zero, daysBefore_succ year hmonth] at h
    simp only [monthDay]
    omega
  | succ months ih =>
    rw [monthDay]
    split_ifs with hin
    · dsimp only
      omega
    · have hnext := daysBefore_succ year hmonth
      have hlt : daysBefore year (month + 1) + (yearDay - daysIn year month) <
          daysBefore year (month + 1 + months + 1) := by
        rw [show month + 1 + months + 1 = month + (months + 1) + 1 by omega]
        omega
      obtain ⟨hle, hge, hpos, hday, hsum⟩ := ih _ _ (Nat.le_add_left 1 month) hlt
      refine ⟨by omega, by omega, hpos, hday, ?_⟩
      omega

lemma yearDay_parts (days : Int) : ∃ (a : Int) (b c e y : Nat),
    yearDay days = (a * 400 + (b * 100 + c * 4 + e : Nat) + 1, y) ∧
      days = a * 146097 + (b * 36524 + c * 1461 + e * 365 + y : Nat) ∧
      b ≤ 3 ∧ c ≤ 24 ∧ e ≤ 3 ∧ (y < 365 ∨ y = 365 ∧ e = 3 ∧ (c < 24 ∨ b = 3)) := by
  have hmod := Int.emod_nonneg days (b := 146097) (by decide)
  have hlt := Int.emod_lt_of_pos days (b := 146097) (by decide)
  refine ⟨days / 146097, _, _, _, _, rfl, ?_⟩
  omega

lemma yearDay_spec (days : Int) :
    daysBeforeYear (yearDay days).1 + (yearDay days).2 = days ∧
      (0 ≤ (yearDay days).1 →
        (yearDay days).2 < if isLeap (yearDay days).1.toNat then 366 else 365) := by
  obtain ⟨a, b, c, e, y, hparts, hdays, hb, hc, he, hy⟩ := yearDay_parts days
  rw [hparts]
  dsimp only [daysBeforeYear]
  refine ⟨by omega, ?_⟩
  intro hyear
  have hleap : y = 365 →
      isLeap (a * 400 + ((b * 100 + c * 4 + e : Nat) : Int) + 1).toNat = true := by
    intro hlast
    simp only [isLeap, Bool.and_eq_true, Bool.or_eq_true, decide_eq_true_eq]
    omega
  split_ifs with h
  · omega
  · by_contra hge
    exact h (hleap (by omega))

/-! ### The text -/

/-- A fraction of a second, without the zeros at its end. -/
def fractionText (nanos : Nat) : List Char :=
  match (pad 9 nanos).rdropWhile (fun c => c = '0') with
  | [] => []
  | read => '.' :: read

def zoneText (zone : Int) : List Char :=
  if zone = 0 then ['Z']
  else (if zone < 0 then '-' else '+') ::
    (pad 2 (zone.natAbs / 60) ++ ':' :: pad 2 (zone.natAbs % 60))

structure Clock where
  year : Int
  yearDay : Nat
  second : Nat
  nanos : Nat

def clock (t : Int) : Clock :=
  let day := yearDay (t / 1000000000 / 86400)
  { year := day.1
    yearDay := day.2
    second := (t / 1000000000 % 86400).toNat
    nanos := (t % 1000000000).toNat }

def Clock.text (c : Clock) (zone : Int) : List Char :=
  let date := monthDay c.year.toNat 11 1 c.yearDay
  pad 4 c.year.toNat ++ '-' :: (pad 2 date.1 ++ '-' :: (pad 2 date.2 ++ 'T' ::
    (pad 2 (c.second / 3600) ++ ':' :: (pad 2 (c.second / 60 % 60) ++ ':' ::
      (pad 2 (c.second % 60) ++ (fractionText c.nanos ++ zoneText zone))))))

/-- `time.Time.MarshalJSON` without the quotes: years have four digits, and zones are less than a day
ahead of or behind UTC. -/
def format (zone t : Int) : Option (List Char) :=
  let c := clock (t + zone * 60000000000)
  if 0 ≤ c.year ∧ c.year ≤ 9999 ∧ -1440 < zone ∧ zone < 1440 then some (c.text zone) else none

lemma number_pad (width : Nat) {n : Nat} (h : n < 10 ^ width) (rest : List Char) :
    number width (pad width n ++ rest) = some (n, rest) := by
  have hlen := length_pad width n
  have htake : (pad width n ++ rest).take width = pad width n := List.take_left' hlen
  have hdrop : (pad width n ++ rest).drop width = rest := List.drop_left' hlen
  have hall : (pad width n).all isDigit = true := List.all_eq_true.mpr fun c hc => isDigit_of_mem_pad hc
  rw [number, htake, hdrop, if_pos ⟨hlen, hall⟩, digits_pad width h]

lemma hour_pad {n : Nat} (h : n < 100) (rest : List Char) : hour (pad 2 n ++ rest) = some (n, rest) := by
  rw [hour, number_pad 2 h]
  rfl

lemma expect_cons (c : Char) (rest : List Char) : expect c (c :: rest) = some rest := if_pos rfl

lemma zoneText_cons (zone : Int) : ∃ c rest, zoneText zone = c :: rest ∧ (c = 'Z' ∨ c = '-' ∨ c = '+') := by
  unfold zoneText
  split_ifs
  · exact ⟨_, _, rfl, .inl rfl⟩
  · exact ⟨_, _, rfl, .inr (.inl rfl)⟩
  · exact ⟨_, _, rfl, .inr (.inr rfl)⟩

lemma zone_cons (sign : Char) (hsign : sign ≠ 'Z') {hh mm : Nat} (hhour : hh ≤ 24) (hminute : mm < 60) :
    zone (sign :: (pad 2 hh ++ ':' :: pad 2 mm)) =
      if sign = '+' then some ((hh * 60 + mm : Int) * 60, [])
      else if sign = '-' then some (-((hh * 60 + mm : Int) * 60), []) else none := by
  have hminutes := number_pad 2 (n := mm) (by omega) []
  rw [List.append_nil] at hminutes
  rw [zone.eq_2 _ _ hsign, number_pad 2 (by omega)]
  simp only [Option.bind_eq_bind, Option.bind_some, expect_cons, hminutes]
  rw [if_pos ⟨hhour, by omega⟩]

lemma zone_zoneText {z : Int} (hlo : -1440 < z) (hhi : z < 1440) : zone (zoneText z) = some (z * 60, []) := by
  have hhour : z.natAbs / 60 ≤ 24 := by omega
  have hminute : z.natAbs % 60 < 60 := by omega
  unfold zoneText
  split_ifs with hzero hneg
  · rw [hzero]
    rfl
  · rw [zone_cons '-' (by decide) hhour hminute, if_neg (by decide), if_pos rfl]
    have hoffset : -(((z.natAbs / 60 : Nat) * 60 + (z.natAbs % 60 : Nat) : Int) * 60) = z * 60 := by omega
    rw [hoffset]
  · rw [zone_cons '+' (by decide) hhour hminute, if_pos rfl]
    have hoffset : ((z.natAbs / 60 : Nat) * 60 + (z.natAbs % 60 : Nat) : Int) * 60 = z * 60 := by omega
    rw [hoffset]

lemma rdropWhile_append_replicate (text : List Char) :
    text.rdropWhile (fun c => c = '0') ++
      List.replicate (text.length - (text.rdropWhile fun c => c = '0').length) '0' = text := by
  induction text using List.reverseRecOn with
  | nil => rfl
  | append_singleton text c ih =>
    by_cases hc : c = '0'
    · have hle : (text.rdropWhile fun c => c = '0').length ≤ text.length :=
        (List.rdropWhile_prefix _ text).length_le
      have hdrop := List.rdropWhile_concat_pos (fun c => decide (c = '0')) text c (decide_eq_true hc)
      rw [hdrop, List.length_append, List.length_singleton, Nat.sub_add_comm hle, List.replicate_succ',
        ← List.append_assoc, ih, hc]
    · have hkeep := List.rdropWhile_concat_neg (fun c => decide (c = '0')) text c (by simpa using hc)
      rw [hkeep, Nat.sub_self, List.replicate_zero, List.append_nil]

lemma fraction_fractionText {nanos : Nat} (h : nanos < 1000000000) (zone : Int) :
    fraction (fractionText nanos ++ zoneText zone) = (nanos, zoneText zone) := by
  obtain ⟨c, rest, hzone, hc⟩ := zoneText_cons zone
  have hsplit := rdropWhile_append_replicate (pad 9 nanos)
  have hkept : ((pad 9 nanos).rdropWhile fun c => c = '0') <+: pad 9 nanos :=
    List.rdropWhile_prefix _ _
  have hlen := hkept.length_le
  rw [length_pad] at hsplit hlen
  unfold fractionText
  cases hread : (pad 9 nanos).rdropWhile (fun c => c = '0') with
  | nil =>
    rw [hread] at hsplit
    have hzero : nanos = 0 := by
      rw [← digits_pad 9 h, ← hsplit]
      decide
    rw [hzone, hzero]
    rcases hc with rfl | rfl | rfl <;> rfl
  | cons d read =>
    rw [hread] at hsplit hlen hkept
    have hdigits : ∀ c ∈ d :: read, isDigit c = true := fun c hc => isDigit_of_mem_pad (hkept.subset hc)
    have hnondigit : isDigit c = false := by rcases hc with rfl | rfl | rfl <;> rfl
    have htake : (d :: read ++ zoneText zone).takeWhile isDigit = d :: read := by
      rw [List.takeWhile_append_of_pos hdigits, hzone, List.takeWhile_cons_of_neg (by simp [hnondigit]),
        List.append_nil]
    have hfull : (d :: read ++ List.replicate 9 '0').take 9 = pad 9 nanos := by
      rw [List.take_append, List.take_of_length_le hlen, List.take_replicate,
        Nat.min_eq_left (Nat.sub_le _ _), hsplit]
    rw [List.cons_append, fraction, htake, if_pos ⟨.inl rfl, List.cons_ne_nil _ _⟩, hfull, digits_pad 9 h, List.drop_left]

lemma bind_of_eq_some {α β : Type} {o : Option α} {a : α} (h : o = some a) (f : α → Option β) :
    (o >>= f) = f a := by
  rw [h]
  rfl

lemma parse_text {c : Clock} {zone : Int} (hyear : c.year.toNat ≤ 9999)
    (hday : c.yearDay < if isLeap c.year.toNat then 366 else 365) (hsecond : c.second < 86400)
    (hnanos : c.nanos < 1000000000) (hlo : -1440 < zone) (hhi : zone < 1440) :
    parse (c.text zone) = some
      (((daysBeforeYear c.year.toNat + c.yearDay) * 86400 + c.second - zone * 60) * 1000000000 + c.nanos) := by
  have hstart : daysBefore c.year.toNat 1 = 0 := rfl
  rw [← daysBefore_end] at hday
  obtain ⟨hjan, hdec, hfirst, hlast, hsum⟩ := monthDay_spec c.year.toNat 11 1 c.yearDay (by decide)
    (by rw [hstart, Nat.zero_add]; exact hday)
  have hdays : daysIn c.year.toNat (monthDay c.year.toNat 11 1 c.yearDay).1 ≤ 31 := by
    unfold daysIn
    split_ifs <;> decide
  rw [hstart, Nat.zero_add] at hsum
  unfold Clock.text parse
  refine (bind_of_eq_some (number_pad 4 (by omega) _) _).trans ?_
  refine (bind_of_eq_some (expect_cons _ _) _).trans ?_
  refine (bind_of_eq_some (number_pad 2 (by omega) _) _).trans ?_
  refine (bind_of_eq_some (expect_cons _ _) _).trans ?_
  refine (bind_of_eq_some (number_pad 2 (by omega) _) _).trans ?_
  refine (bind_of_eq_some (expect_cons _ _) _).trans ?_
  refine (bind_of_eq_some (hour_pad (by omega) _) _).trans ?_
  refine (bind_of_eq_some (expect_cons _ _) _).trans ?_
  refine (bind_of_eq_some (number_pad 2 (by omega) _) _).trans ?_
  refine (bind_of_eq_some (expect_cons _ _) _).trans ?_
  refine (bind_of_eq_some (number_pad 2 (by omega) _) _).trans ?_
  dsimp only
  rw [fraction_fractionText hnanos]
  refine (bind_of_eq_some (zone_zoneText hlo hhi) _).trans ?_
  dsimp only
  rw [if_pos ⟨rfl, hjan, hdec, hfirst, hlast, by omega, by omega, by omega⟩, dayNumber_eq, hsum]
  have hclock : c.second / 3600 * 3600 + c.second / 60 % 60 * 60 + c.second % 60 = c.second := by omega
  rw [hclock]

lemma forall_mem_format {P : Char → Prop} (hdigit : ∀ c, isDigit c = true → P c)
    (hsep : ∀ c ∈ ['-', 'T', ':', '.', 'Z', '+'], P c) {zone t : Int} {text : List Char}
    (h : format zone t = some text) : ∀ c ∈ text, P c := by
  have hpad : ∀ width n, ∀ c ∈ pad width n, P c := fun _ _ c hc => hdigit c (isDigit_of_mem_pad hc)
  have hfraction : ∀ nanos, ∀ c ∈ fractionText nanos, P c := by
    intro nanos c hc
    unfold fractionText at hc
    split at hc
    · cases hc
    · rcases List.mem_cons.mp hc with rfl | hc
      · exact hsep _ (by simp)
      · exact hpad 9 nanos c ((List.rdropWhile_prefix _ _).subset hc)
  have hzone : ∀ c ∈ zoneText zone, P c := by
    unfold zoneText
    split_ifs
    · exact List.forall_mem_singleton.mpr (hsep _ (by simp))
    · rw [List.forall_mem_cons, List.forall_mem_append, List.forall_mem_cons]
      exact ⟨hsep _ (by simp), hpad _ _, hsep _ (by simp), hpad _ _⟩
    · rw [List.forall_mem_cons, List.forall_mem_append, List.forall_mem_cons]
      exact ⟨hsep _ (by simp), hpad _ _, hsep _ (by simp), hpad _ _⟩
  unfold format at h
  dsimp only at h
  split_ifs at h
  cases h
  simp only [Clock.text, List.forall_mem_append, List.forall_mem_cons]
  exact ⟨hpad _ _, hsep _ (by simp), hpad _ _, hsep _ (by simp), hpad _ _, hsep _ (by simp), hpad _ _,
    hsep _ (by simp), hpad _ _, hsep _ (by simp), hpad _ _, hfraction _, hzone⟩

theorem parse_format {zone t : Int} {text : List Char} (h : format zone t = some text) :
    parse text = some t := by
  unfold format at h
  dsimp only at h
  split_ifs at h with hrange
  cases h
  obtain ⟨hpos, hlt, hlo, hhi⟩ := hrange
  generalize hlocal : t + zone * 60000000000 = moment at *
  obtain ⟨hdays, hday⟩ := yearDay_spec (moment / 1000000000 / 86400)
  change daysBeforeYear (clock moment).year + (clock moment).yearDay = _ at hdays
  have hyear : (((clock moment).year.toNat : Nat) : Int) = (clock moment).year := Int.toNat_of_nonneg hpos
  have hsecond : (clock moment).second = moment / 1000000000 % 86400 :=
    Int.toNat_of_nonneg (Int.emod_nonneg _ (by decide))
  have hnanos : (clock moment).nanos = moment % 1000000000 :=
    Int.toNat_of_nonneg (Int.emod_nonneg _ (by decide))
  rw [parse_text (by omega) (hday hpos) (by omega) (by omega) hlo hhi, hyear, hdays, hsecond, hnanos]
  congr 1
  omega

end Timestamp

end MailBaby.Lib
