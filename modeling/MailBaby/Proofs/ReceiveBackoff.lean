import MailBaby.Driver.Backoff

/-!
# What receive loops wait for

Only the first call of `Wait` adds a jitter, around a time that may already be at the cap. From the second one on
the times are single points.
-/

namespace MailBaby.Common

open Lib

variable {b : Backoff} {n : Nat} {d : Int}

/-! ### The calls in order -/

def waitCall (r : Int) : WaitCall where
  ctx := some false
  int63n k := r % k
  int63n_mem k hk := ⟨Int.emod_nonneg _ (by omega), Int.emod_lt_of_pos _ hk⟩

lemma waits_cons {c : WaitCall} {ended : Bool} (hc : c.ctx = some ended) (hcount : b.attempt + 1 < 2 ^ 32)
    (calls : List WaitCall) :
    b.waits (c :: calls) = waitTime b.base b.max b.jittered (b.attempt + 1) c.int63n ::
      { b with attempt := b.attempt + 1, jittered := true }.waits calls := by
  rw [Backoff.waits, Backoff.wait, hc]
  dsimp only
  rw [Nat.mod_eq_of_lt hcount]
  rfl

lemma waits_get {calls : List WaitCall} {i : Nat} (h : (b.waits calls)[i]? = some d)
    (hcount : b.attempt + i + 1 < 2 ^ 32) :
    ∃ c : WaitCall, d = waitTime b.base b.max (b.jittered || 0 < i) (b.attempt + i + 1) c.int63n := by
  induction calls generalizing b i with
  | nil => cases h
  | cons c calls ih =>
    cases hctx : c.ctx with
    | none =>
      rw [Backoff.waits, Backoff.wait, hctx] at h
      exact ih h hcount
    | some ended =>
      rw [waits_cons hctx (by omega)] at h
      cases i with
      | zero => exact ⟨c, by simpa using h.symm⟩
      | succ i =>
        obtain ⟨c', hc'⟩ := ih (by simpa using h) (by dsimp only; omega)
        refine ⟨c', ?_⟩
        simpa [Nat.add_assoc, Nat.add_comm 1] using hc'

lemma waits_calls (i : Nat) (c : WaitCall) {ended : Bool} (hc : c.ctx = some ended)
    (hcount : b.attempt + i + 1 < 2 ^ 32) :
    (b.waits (List.replicate i (waitCall 0) ++ [c]))[i]? =
      some (waitTime b.base b.max (b.jittered || 0 < i) (b.attempt + i + 1) c.int63n) := by
  induction i generalizing b with
  | zero =>
    rw [List.replicate_zero, List.nil_append, waits_cons hc hcount]
    simp
  | succ i ih =>
    have hlive : (waitCall 0).ctx = some false := rfl
    rw [List.replicate_succ, List.cons_append, waits_cons hlive (by omega), List.getElem?_cons_succ,
      ih (by dsimp only; omega)]
    simp [Nat.add_assoc, Nat.add_comm 1]

lemma mayChoose_iff (hnew : b.attempt = 0 ∧ b.jittered = false) (hn : 1 ≤ n) (hcount : n < 2 ^ 32) :
    b.MayChoose n d ↔ ∃ c : WaitCall, d = waitTime b.base b.max (decide (1 < n)) n c.int63n := by
  obtain ⟨i, rfl⟩ := Nat.exists_eq_add_of_le' hn
  have hflag : (b.jittered || decide (0 < i)) = decide (1 < i + 1) := by simp [hnew.2]
  rw [Backoff.MayChoose, Nat.add_sub_cancel]
  constructor
  · rintro ⟨calls, hcalls⟩
    have hget := waits_get hcalls (by omega)
    rwa [hflag, hnew.1, Nat.zero_add] at hget
  · rintro ⟨c, rfl⟩
    refine ⟨_, (waits_calls i { c with ctx := some false } rfl (by omega)).trans ?_⟩
    rw [hflag, hnew.1, Nat.zero_add]

/-! ### The time of a call -/

structure Backoff.Fresh (b : Backoff) : Prop where
  unused : b.attempt = 0 ∧ b.jittered = false
  base_pos : 0 < b.base
  base_lt : b.base < 2 ^ 63
  max_pos : 0 < b.max
  max_lt : b.max < 2 ^ 63
  base_le : b.base ≤ b.max ∨ 5 ≤ b.max

lemma fresh_newBackoff {base max : Int} (hbase : IsInt64 base) (hmax : IsInt64 max) :
    (newBackoff base max).Fresh := by
  have hbase' := hbase.lt
  have hmax' := hmax.lt
  refine ⟨⟨rfl, rfl⟩, ?_, ?_, ?_, ?_, ?_⟩ <;> dsimp only [newBackoff, millisecond] <;> split_ifs <;> omega

lemma value_pos (hb : b.Fresh) (n : Nat) : 0 < b.value n :=
  lt_min (Int.mul_pos hb.base_pos (Int.pow_pos (by decide))) hb.max_pos

lemma not_slips_of_first (hb : b.Fresh) : ¬Slips b.max (b.base * 2 ^ min 1 10) := by
  rintro ⟨hlarge, hpos, -⟩
  have hlt := hb.base_lt
  unfold wrap64 at hpos
  rw [Int.bmod_def] at hpos
  change 2 ^ 63 ≤ b.base * 2 at hlarge
  change 0 < if (b.base * 2) % 2 ^ 64 < _ then (b.base * 2) % 2 ^ 64 else (b.base * 2) % 2 ^ 64 - 2 ^ 64 at hpos
  split_ifs at hpos <;> omega

lemma not_slips_of_small (hb : b.Fresh) (hsmall : b.value n < 5) : ¬Slips b.max (b.base * 2 ^ min n 10) := by
  rintro ⟨hlarge, -⟩
  have hbase : b.base ≤ 4 := by
    have hle := hb.base_le
    unfold Backoff.value at hsmall
    omega
  have hpow : (2 : Int) ^ min n 10 ≤ 2 ^ 10 := pow_le_pow_right₀ (by decide) (Nat.min_le_right n 10)
  have hmul := Int.mul_le_mul hbase hpow (Int.le_of_lt (Int.pow_pos (by decide))) (by decide)
  omega

lemma mayChoose_later (hb : b.Fresh) (hn : 1 < n) (hcount : n < 2 ^ 32) :
    b.MayChoose n d ↔ d = cappedShift b.max b.base (min n 10) := by
  rw [mayChoose_iff hb.unused (Nat.le_of_lt hn) hcount, decide_eq_true hn]
  have htime (c : WaitCall) : waitTime b.base b.max true n c.int63n = cappedShift b.max b.base (min n 10) := by
    rw [waitTime]
    exact if_neg fun h => Bool.noConfusion h.1
  simp only [htime]
  exact ⟨fun ⟨_, hd⟩ => hd, fun hd => ⟨waitCall 0, hd⟩⟩

lemma mayChoose_first (hb : b.Fresh) :
    b.MayChoose 1 d ↔ if b.value 1 < 5 then d = b.value 1
      else ∃ r, 0 ≤ r ∧ r < b.value 1 / 5 * 2 ∧ d = wrap64 (b.value 1 + (r - b.value 1 / 5)) := by
  have hexact : cappedShift b.max b.base (min 1 10) = b.value 1 :=
    (cappedShift_eq_min_iff hb.max_lt hb.base_pos).mpr (not_slips_of_first hb)
  have hpos := value_pos hb 1
  have hwindow : (b.value 1).tdiv 5 = b.value 1 / 5 := Int.tdiv_eq_ediv_of_nonneg (Int.le_of_lt hpos)
  have htime (c : WaitCall) : waitTime b.base b.max (decide (1 < 1)) 1 c.int63n =
      if b.value 1 < 5 then b.value 1
      else wrap64 (b.value 1 + (c.int63n (b.value 1 / 5 * 2) - b.value 1 / 5)) := by
    unfold waitTime
    rw [hexact]
    dsimp only
    rw [hwindow]
    by_cases hsmall : b.value 1 < 5
    · rw [if_pos hsmall, if_neg fun h => absurd h.2 (by omega)]
    · rw [if_neg hsmall, if_pos ⟨rfl, by omega⟩]
  rw [mayChoose_iff hb.unused (Nat.le_refl 1) (by decide)]
  simp only [htime]
  split_ifs with hsmall
  · exact ⟨fun ⟨_, hd⟩ => hd, fun hd => ⟨waitCall 0, hd⟩⟩
  · constructor
    · rintro ⟨c, rfl⟩
      obtain ⟨hnonneg, hlt⟩ := c.int63n_mem (b.value 1 / 5 * 2) (by omega)
      exact ⟨_, hnonneg, hlt, rfl⟩
    · rintro ⟨r, hnonneg, hlt, rfl⟩
      have hdraw : (waitCall r).int63n (b.value 1 / 5 * 2) = r := Int.emod_eq_of_lt hnonneg hlt
      exact ⟨waitCall r, by rw [hdraw]⟩

/-! ### When a time is sound -/

lemma sound_of_small (hb : b.Fresh) (hsmall : b.value n < 5) (hone : ∀ d, b.MayChoose n d → d = b.value n) :
    b.Sound n := by
  have hle : b.value n ≤ b.max := min_le_right _ _
  have hpos := value_pos hb n
  refine ⟨?_, ?_, ?_, fun hlarge => absurd hlarge (not_le.mpr hsmall)⟩
  · intro d hd
    rw [hone d hd]
    exact hle
  · intro d hd
    rw [hone d hd]
    omega
  · intro d hd
    rw [hone d hd]
    omega

lemma sound_first (hb : b.Fresh) (hlarge : 5 ≤ b.value 1) (hroom : b.value 1 + b.value 1 / 5 ≤ b.max + 1) :
    b.Sound 1 := by
  have hmax := hb.max_lt
  have hiff (d : Int) : b.MayChoose 1 d ↔ b.value 1 - b.value 1 / 5 ≤ d ∧ d ≤ b.value 1 + b.value 1 / 5 - 1 := by
    rw [mayChoose_first hb, if_neg (not_lt.mpr hlarge)]
    constructor
    · rintro ⟨r, hnonneg, hlt, rfl⟩
      rw [wrap64_of_nonneg (by omega) (by omega)]
      omega
    · rintro ⟨hlo, hhi⟩
      exact ⟨d - b.value 1 + b.value 1 / 5, by omega, by omega, by rw [wrap64_of_nonneg] <;> omega⟩
  refine ⟨?_, ?_, ?_, fun _ => ⟨_, _, ?_, ?_, ?_, hiff⟩⟩
  · intro d hd
    have hd' := (hiff d).mp hd
    omega
  · intro d hd
    have hd' := (hiff d).mp hd
    omega
  · intro d hd
    have hd' := (hiff d).mp hd
    omega
  all_goals omega

lemma room_of_sound (hb : b.Fresh) (hlarge : 5 ≤ b.value 1) (h : b.Sound 1) :
    b.value 1 + b.value 1 / 5 ≤ b.max + 1 := by
  by_contra hroom
  have hle : b.value 1 ≤ b.max := min_le_right _ _
  have hmax := hb.max_lt
  have hpast : b.MayChoose 1 (wrap64 (b.max + 1)) := by
    rw [mayChoose_first hb, if_neg (not_lt.mpr hlarge)]
    refine ⟨b.max + 1 - b.value 1 + b.value 1 / 5, by omega, by omega, ?_⟩
    congr 1
    omega
  by_cases hfits : b.max + 1 < 2 ^ 63
  · have hcap := h.le_max _ hpast
    rw [wrap64_of_nonneg (by omega) hfits] at hcap
    omega
  · have hlow := h.four_fifths _ hpast
    have htop : b.max + 1 = 2 ^ 63 := by omega
    have hwrap : wrap64 (2 ^ 63) = -2 ^ 63 := by decide
    rw [htop, hwrap] at hlow
    omega

lemma not_sound_later (hb : b.Fresh) (hn : 1 < n) (hcount : n < 2 ^ 32) (hlarge : 5 ≤ b.value n) : ¬b.Sound n := by
  intro h
  -- a single point is no interval
  obtain ⟨lo, hi, hlt, -, -, hiff⟩ := h.spread hlarge
  have hlo := (mayChoose_later hb hn hcount).mp ((hiff lo).mpr ⟨le_refl lo, hlt.le⟩)
  have hhi := (mayChoose_later hb hn hcount).mp ((hiff hi).mpr ⟨hlt.le, le_refl hi⟩)
  omega

end MailBaby.Common

namespace MailBaby.Proofs

open Lib Common

/-- The `n`-th time is sound exactly if it is too short for a jitter, or it is the first one and leaves the jitter
room below the cap. -/
theorem receive_backoff_iff (base max : Int) (hbase : IsInt64 base) (hmax : IsInt64 max) (n : Nat)
    (hn : 1 ≤ n) (hcount : n < 2 ^ 32) :
    (newBackoff base max).Sound n ↔ (newBackoff base max).value n < 5 ∨
      n = 1 ∧ (newBackoff base max).value n + (newBackoff base max).value n / 5 ≤ (newBackoff base max).max + 1 := by
  have hb := fresh_newBackoff hbase hmax
  generalize newBackoff base max = b at hb ⊢
  by_cases hsmall : b.value n < 5
  · have hexact : cappedShift b.max b.base (min n 10) = b.value n :=
      (cappedShift_eq_min_iff hb.max_lt hb.base_pos).mpr (not_slips_of_small hb hsmall)
    refine iff_of_true (sound_of_small hb hsmall fun d hd => ?_) (.inl hsmall)
    obtain rfl | hlater := Nat.eq_or_lt_of_le hn
    · rwa [mayChoose_first hb, if_pos hsmall] at hd
    · rwa [mayChoose_later hb hlater hcount, hexact] at hd
  · rw [or_iff_right hsmall]
    constructor
    · intro h
      obtain rfl | hlater := Nat.eq_or_lt_of_le hn
      · exact ⟨rfl, room_of_sound hb (not_lt.mp hsmall) h⟩
      · exact absurd h (not_sound_later hb hlater hcount (not_lt.mp hsmall))
    · rintro ⟨rfl, hroom⟩
      exact sound_first hb (not_lt.mp hsmall) hroom

theorem receive_backoff_iff_first : (newBackoff (100 * millisecond) (5000 * millisecond)).Sound 1 :=
  (receive_backoff_iff _ _ ⟨by decide, by decide⟩ ⟨by decide, by decide⟩ 1 (by decide) (by decide)).mpr
    (.inr ⟨rfl, by decide⟩)

/-- The second time of the Redis driver is 400 ms, without a jitter. A first time at the cap may come out a fifth
above it. A base whose high bits are shifted out waits for a microsecond at its tenth call. -/
theorem receive_backoff_unsound :
    (∀ d, (newBackoff (100 * millisecond) (5000 * millisecond)).MayChoose 2 d ↔ d = 400 * millisecond) ∧
      ¬(newBackoff (100 * millisecond) (5000 * millisecond)).Sound 2 ∧
      ((newBackoff (4000 * millisecond) (5000 * millisecond)).max = 5000 * millisecond ∧
        (newBackoff (4000 * millisecond) (5000 * millisecond)).MayChoose 1 (5999 * millisecond)) ∧
      (newBackoff (2 ^ 54 + 1) (2 ^ 62)).value 10 = 2 ^ 62 ∧
      ∀ d, (newBackoff (2 ^ 54 + 1) (2 ^ 62)).MayChoose 10 d ↔ d = 1024 := by
  have hredis : (newBackoff (100 * millisecond) (5000 * millisecond)).Fresh :=
    fresh_newBackoff ⟨by decide, by decide⟩ ⟨by decide, by decide⟩
  have hhigh : (newBackoff (4000 * millisecond) (5000 * millisecond)).Fresh :=
    fresh_newBackoff ⟨by decide, by decide⟩ ⟨by decide, by decide⟩
  have hwide : (newBackoff (2 ^ 54 + 1) (2 ^ 62)).Fresh :=
    fresh_newBackoff ⟨by decide, by decide⟩ ⟨by decide, by decide⟩
  refine ⟨fun d => mayChoose_later hredis (by decide) (by decide),
    not_sound_later hredis (by decide) (by decide) (by decide), ⟨rfl, ?_⟩, by decide,
    fun d => mayChoose_later hwide (by decide) (by decide)⟩
  rw [mayChoose_first hhigh, if_neg (by decide)]
  exact ⟨1999 * millisecond, by decide, by decide, by decide⟩

end MailBaby.Proofs
