import Mathlib.Algebra.Group.Int.Defs
import Mathlib.Algebra.Group.Nat.Defs
import Mathlib.Algebra.Order.Ring.Int
import Mathlib.Tactic.Common

/-!
# 64-bit integers

Signed 64-bit arithmetic on `Int`: a result is reduced into the range of the type.
-/

namespace MailBaby.Lib

/-- The 64-bit integer that an exact result wraps to. -/
def wrap64 (n : Int) : Int := Int.bmod n (2 ^ 64)

def maxInt64 : Int := 2 ^ 63 - 1

structure IsInt64 (n : Int) : Prop where
  le : -(2 ^ 63) ≤ n
  lt : n < 2 ^ 63

lemma isInt64_wrap64 (n : Int) : IsInt64 (wrap64 n) := by
  have hle := Int.le_bmod (x := n) (m := 2 ^ 64) (by decide)
  have hlt := Int.bmod_lt (x := n) (m := 2 ^ 64) (by decide)
  exact ⟨by unfold wrap64; omega, by unfold wrap64; omega⟩

lemma wrap64_eq_self {n : Int} (h : IsInt64 n) : wrap64 n = n := by
  obtain ⟨hle, hlt⟩ := h
  unfold wrap64
  rw [Int.bmod_def]
  split_ifs <;> omega

lemma wrap64_of_nonneg {n : Int} (h0 : 0 ≤ n) (h : n < 2 ^ 63) : wrap64 n = n :=
  wrap64_eq_self ⟨by omega, h⟩

lemma wrap64_between_iff {n b : Int} (hb : b ≤ 2 ^ 63) :
    (0 < wrap64 n ∧ wrap64 n < b) ↔ (0 < n % 2 ^ 64 ∧ n % 2 ^ 64 < b) := by
  have hnonneg : 0 ≤ n % 2 ^ 64 := Int.emod_nonneg n (by decide)
  have hlt : n % 2 ^ 64 < 2 ^ 64 := Int.emod_lt_of_pos n (by decide)
  have hdef : wrap64 n = if n % 2 ^ 64 < 2 ^ 63 then n % 2 ^ 64 else n % 2 ^ 64 - 2 ^ 64 := by
    unfold wrap64
    rw [Int.bmod_def]
    rfl
  rw [hdef]
  split_ifs with h
  · exact Iff.rfl
  · constructor
    · rintro ⟨hpos, -⟩
      omega
    · rintro ⟨-, hsmall⟩
      omega

lemma mul_two_pow_emod {k : Nat} (hk : k ≤ 64) (n : Int) :
    n * 2 ^ k % 2 ^ 64 = n % 2 ^ (64 - k) * 2 ^ k := by
  have hsplit : (2 : Int) ^ 64 = 2 ^ (64 - k) * 2 ^ k := by
    rw [← pow_add, Nat.sub_add_cancel hk]
  have hpos : (0 : Int) < 2 ^ k := Int.pow_pos (by decide)
  rw [hsplit, mul_comm n, mul_comm (2 ^ (64 - k)), Int.mul_emod_mul_of_pos _ _ hpos, mul_comm]

lemma wrap64_mul_two_pow_of_ge {k : Nat} (hk : 64 ≤ k) (n : Int) : wrap64 (n * 2 ^ k) = 0 := by
  obtain ⟨d, rfl⟩ := Nat.exists_eq_add_of_le hk
  rw [pow_add, ← mul_assoc, mul_right_comm]
  unfold wrap64
  exact Int.bmod_eq_zero_of_dvd ⟨n * 2 ^ d, by rw [mul_comm]; rfl⟩

/-! ### Shifts with a cap -/

/-- A wrapped shift, with a result that is not positive or above the cap replaced by the cap. -/
def cappedShift (cap x : Int) (k : Nat) : Int :=
  if wrap64 (x * 2 ^ k) ≤ 0 ∨ wrap64 (x * 2 ^ k) > cap then cap else wrap64 (x * 2 ^ k)

/-- The bits of `x` below the `j`-th, given that it has higher ones, are zero or come out at or above the
cap when they are shifted to the top. -/
def LowBitsCapped (cap x : Int) : Prop :=
  ∀ j : Nat, 2 ^ j ≤ x → x % 2 ^ j = 0 ∨ cap ≤ x % 2 ^ j * 2 ^ (64 - j)

/-- The exact result is out of range, and the wrapped one is below the cap all the same. -/
def Slips (cap n : Int) : Prop := 2 ^ 63 ≤ n ∧ 0 < wrap64 n ∧ wrap64 n < cap

variable {cap x : Int} {k : Nat}

lemma cappedShift_le (cap x : Int) (k : Nat) : cappedShift cap x k ≤ cap := by
  unfold cappedShift
  split_ifs with h <;> omega

lemma cappedShift_pos (hcap : 0 < cap) (x : Int) (k : Nat) : 0 < cappedShift cap x k := by
  unfold cappedShift
  split_ifs with h <;> omega

lemma wrap64_emod_two (n : Int) : wrap64 n % 2 = n % 2 := by
  unfold wrap64
  rw [Int.bmod_def]
  split_ifs <;> omega

lemma two_le_cappedShift (hcap : 2 ≤ cap) (hx : 2 ≤ x) (hx64 : x < 2 ^ 63) (k : Nat) :
    2 ≤ cappedShift cap x k := by
  have hpos := cappedShift_pos (by omega : 0 < cap) x k
  unfold cappedShift at hpos ⊢
  split_ifs with h
  · exact hcap
  · cases k with
    | zero =>
      rw [pow_zero, mul_one, wrap64_of_nonneg (by omega) hx64]
      exact hx
    | succ k =>
      have heven : wrap64 (x * 2 ^ (k + 1)) % 2 = 0 := by
        rw [wrap64_emod_two, pow_succ, ← mul_assoc, Int.mul_emod_left]
      omega

lemma cappedShift_eq_min_iff (hcap : cap < 2 ^ 63) (hx : 0 < x) :
    cappedShift cap x k = min (x * 2 ^ k) cap ↔ ¬Slips cap (x * 2 ^ k) := by
  have hpos : 0 < x * 2 ^ k := Int.mul_pos hx (Int.pow_pos (by decide))
  unfold Slips cappedShift
  by_cases hfits : x * 2 ^ k < 2 ^ 63
  · have hnot : ¬2 ^ 63 ≤ x * 2 ^ k := by omega
    rw [wrap64_of_nonneg (Int.le_of_lt hpos) hfits]
    simp only [hnot, false_and, not_false_eq_true, iff_true]
    split_ifs with h <;> omega
  · rw [min_eq_right (by omega : cap ≤ x * 2 ^ k)]
    split_ifs with h <;> omega

lemma slips_iff (hcap : cap < 2 ^ 63) (hx : 0 < x) (hk : k ≤ 64) :
    Slips cap (x * 2 ^ k) ↔
      2 ^ (64 - k) ≤ x ∧ 0 < x % 2 ^ (64 - k) ∧ x % 2 ^ (64 - k) * 2 ^ k < cap := by
  have hk0 : (0 : Int) < 2 ^ k := Int.pow_pos (by decide)
  have hsplit : (2 : Int) ^ 64 = 2 ^ (64 - k) * 2 ^ k := by
    rw [← pow_add, Nat.sub_add_cancel hk]
  unfold Slips
  rw [wrap64_between_iff (Int.le_of_lt hcap), mul_two_pow_emod hk]
  constructor
  · rintro ⟨hge, hrem, hlt⟩
    refine ⟨?_, Int.pos_of_mul_pos_left hrem hk0, hlt⟩
    by_contra hsmall
    rw [Int.emod_eq_of_lt (Int.le_of_lt hx) (not_le.mp hsmall)] at hlt
    omega
  · rintro ⟨hge, hrem, hlt⟩
    have hle : 2 ^ (64 - k) * 2 ^ k ≤ x * 2 ^ k :=
      Int.mul_le_mul_of_nonneg_right hge (Int.le_of_lt hk0)
    exact ⟨by omega, Int.mul_pos hrem hk0, hlt⟩

lemma forall_not_slips_iff (hcap : cap < 2 ^ 63) (hx : 0 < x) (hx64 : x < 2 ^ 63) :
    (∀ k : Nat, ¬Slips cap (x * 2 ^ k)) ↔ LowBitsCapped cap x := by
  constructor
  · intro h j hj
    have hj63 : j < 63 := by
      have hpow : (2 : Int) ^ j < 2 ^ 63 := lt_of_le_of_lt hj hx64
      exact (Nat.pow_lt_pow_iff_right (by decide : 1 < 2)).mp (by exact_mod_cast hpow)
    have hslip := h (64 - j)
    rw [slips_iff hcap hx (Nat.sub_le 64 j), Nat.sub_sub_self (by omega)] at hslip
    have hnonneg : 0 ≤ x % 2 ^ j := Int.emod_nonneg _ (pow_ne_zero j (by decide))
    by_contra hno
    rw [not_or, not_le] at hno
    exact hslip ⟨hj, by omega, hno.2⟩
  · intro h k hslip
    by_cases hk : k ≤ 64
    · obtain ⟨hge, hrem, hsmall⟩ := (slips_iff hcap hx hk).mp hslip
      rcases h (64 - k) hge with hzero | hcapped
      · omega
      · rw [Nat.sub_sub_self hk] at hcapped
        omega
    · -- all bits of the operand are gone
      have hzero := wrap64_mul_two_pow_of_ge (by omega : 64 ≤ k) x
      have hpos := hslip.2.1
      omega

lemma min_shift_le (hx : 0 ≤ x) (cap : Int) {k k' : Nat} (hk : k ≤ k') :
    min (x * 2 ^ k) cap ≤ min (x * 2 ^ k') cap := by
  have hpow : (2 : Int) ^ k ≤ 2 ^ k' := pow_le_pow_right₀ (by decide) hk
  exact min_le_min_right _ (Int.mul_le_mul_of_nonneg_left hpow hx)

theorem cappedShift_exact_iff (hcap : cap < 2 ^ 63) (hx : 0 < x) (hx64 : x < 2 ^ 63) :
    (∀ k, cappedShift cap x k = min (x * 2 ^ k) cap) ↔ LowBitsCapped cap x := by
  rw [← forall_not_slips_iff hcap hx hx64]
  exact forall_congr' fun k => cappedShift_eq_min_iff hcap hx

end MailBaby.Lib
