import MailBaby.Proofs.Retry
import MailBaby.Runtime.RetryLoop

/-!
# Backoff and sleeps

The backoff before a retry is a capped shift.
-/

namespace MailBaby.Engine

open Lib

lemma backoff_le (interval : Duration) (k : Nat) : backoff interval k ≤ maxBackoff :=
  cappedShift_le maxBackoff interval k

lemma two_le_backoff {interval : Duration} (h : 2 ≤ interval) (h64 : IsInt64 interval) (k : Nat) :
    2 ≤ backoff interval k :=
  two_le_cappedShift (by decide) h h64.lt k

/-! ### Sleeps -/

/-- What a sleep keeps of the backoff it was computed from; in the last bound six minutes and fifteen
seconds. -/
structure BoundedSleep (base sleep : Int) : Prop where
  pos : 0 < sleep
  ge_three_quarters : 3 * base ≤ 4 * sleep
  lt_five_quarters : 4 * sleep < 5 * base
  lt_max : sleep < 375 * second

lemma sleepTime_eq {base jitter : Int} (hbase : 0 ≤ base) (hmax : base ≤ maxBackoff) (hjitter : 0 ≤ jitter)
    (hlt : jitter < base.tdiv 2) : sleepTime base jitter = base - base.tdiv 4 + jitter := by
  have hmax' : base ≤ 300000000000 := hmax
  have htwo : base.tdiv 2 = base / 2 := Int.tdiv_eq_ediv_of_nonneg hbase
  have hfour : base.tdiv 4 = base / 4 := Int.tdiv_eq_ediv_of_nonneg hbase
  have hrest : wrap64 (base - base.tdiv 4) = base - base.tdiv 4 := wrap64_of_nonneg (by omega) (by omega)
  have hsum : wrap64 (base - base.tdiv 4 + jitter) = base - base.tdiv 4 + jitter :=
    wrap64_of_nonneg (by omega) (by omega)
  unfold sleepTime
  rw [hrest, hsum]

lemma boundedSleep_sleepTime {base jitter : Int} (hbase : 2 ≤ base) (hmax : base ≤ maxBackoff)
    (hjitter : 0 ≤ jitter) (hlt : jitter < base.tdiv 2) : BoundedSleep base (sleepTime base jitter) := by
  have hmax' : base ≤ 300000000000 := hmax
  have htwo : base.tdiv 2 = base / 2 := Int.tdiv_eq_ediv_of_nonneg (by omega)
  have hfour : base.tdiv 4 = base / 4 := Int.tdiv_eq_ediv_of_nonneg (by omega)
  rw [sleepTime_eq (by omega) hmax hjitter hlt]
  refine ⟨by omega, by omega, by omega, ?_⟩
  change base - base.tdiv 4 + jitter < 375000000000
  omega

lemma effectiveInterval_of_pos {e : Engine} (h : 0 < e.retryInterval) :
    e.effectiveInterval = e.retryInterval :=
  if_neg (not_le.mpr h)

lemma pause_eq_sleepOrDone {interval : Duration} {k : Nat} (hbase : 2 ≤ backoff interval k) (env : Env)
    (w : World) :
    ∃ jitter, 0 ≤ jitter ∧ jitter < (backoff interval k).tdiv 2 ∧
      pause interval (k + 1) env w =
        sleepOrDone (k + 1) (sleepTime (backoff interval k) jitter) env w := by
  have htwo : (backoff interval k).tdiv 2 = backoff interval k / 2 :=
    Int.tdiv_eq_ediv_of_nonneg (by omega)
  have hpos : 0 < (backoff interval k).tdiv 2 := by omega
  let jitter : Int := (env.rand (k + 1) : Int) % (backoff interval k).tdiv 2
  have hnonneg : 0 ≤ jitter := Int.emod_nonneg _ (by omega)
  have hlt : jitter < (backoff interval k).tdiv 2 := Int.emod_lt_of_pos _ hpos
  have hdraw : int63n (k + 1) ((backoff interval k).tdiv 2) env w = (.ok jitter, w) := by
    unfold int63n
    rw [if_neg (not_le.mpr hpos)]
    rfl
  refine ⟨jitter, hnonneg, hlt, ?_⟩
  rw [sleepTime_eq (by omega) (backoff_le interval k) hnonneg hlt]
  unfold pause
  exact Eff.bind_of_ok hdraw _

end MailBaby.Engine

namespace MailBaby.Proofs

open Lib Engine

/-- The backoff is the exact power of two with its cap, and so never decreases, exactly for the intervals
whose low bits are capped. -/
theorem backoff_exact_iff (interval : Duration) (hpos : 0 < interval) (h64 : IsInt64 interval) :
    ((∀ k, backoff interval k = min (interval * 2 ^ k) maxBackoff) ∧
        ∀ j k, j ≤ k → backoff interval j ≤ backoff interval k) ↔
      LowBitsCapped maxBackoff interval := by
  have hexact : (∀ k, backoff interval k = min (interval * 2 ^ k) maxBackoff) ↔
      LowBitsCapped maxBackoff interval := cappedShift_exact_iff (by decide) hpos h64.lt
  rw [hexact, and_iff_left_iff_imp]
  intro hcapped j k hjk
  rw [hexact.mpr hcapped j, hexact.mpr hcapped k]
  exact min_shift_le (Int.le_of_lt hpos) maxBackoff hjk

def oddInterval : Duration := 2 ^ 40 + 1

/-- The twenty-fifth retry waits for about 17 milliseconds instead of five minutes. -/
theorem backoff_slips : 0 < oddInterval ∧ oddInterval < 2 ^ 63 ∧ backoff oddInterval 23 = maxBackoff ∧
    backoff oddInterval 24 = 2 ^ 24 ∧ min (oddInterval * 2 ^ 24) maxBackoff = maxBackoff := by
  decide

theorem backoff_exact_iff_odd : 0 < oddInterval ∧ IsInt64 oddInterval ∧
    (((∀ k, backoff oddInterval k = min (oddInterval * 2 ^ k) maxBackoff) ∧
      ∀ j k, j ≤ k → backoff oddInterval j ≤ backoff oddInterval k) ↔ LowBitsCapped maxBackoff oddInterval) :=
  ⟨by decide, ⟨by decide, by decide⟩, backoff_exact_iff oddInterval (by decide) ⟨by decide, by decide⟩⟩

/-- Before every retry `Int63n` gets a positive argument, and whatever it draws, the sleep that 64-bit
arithmetic gives keeps its bounds. -/
theorem retry_sleep_bounded (e : Engine) (h : 2 ≤ e.retryInterval) (h64 : IsInt64 e.retryInterval) (k : Nat)
    (env : Env) (w : World) :
    0 < (backoff e.effectiveInterval k).tdiv 2 ∧
      ∃ jitter, pause e.effectiveInterval (k + 1) env w =
          sleepOrDone (k + 1) (sleepTime (backoff e.effectiveInterval k) jitter) env w ∧
        BoundedSleep (backoff e.effectiveInterval k)
          (sleepTime (backoff e.effectiveInterval k) jitter) := by
  have hpos : 0 < e.retryInterval := lt_of_lt_of_le (by decide) h
  rw [effectiveInterval_of_pos hpos]
  have hbase := two_le_backoff h h64 k
  obtain ⟨jitter, hnonneg, hlt, hpause⟩ := pause_eq_sleepOrDone hbase env w
  exact ⟨lt_of_le_of_lt hnonneg hlt, jitter, hpause,
    boundedSleep_sleepTime hbase (backoff_le _ k) hnonneg hlt⟩

def quickEngine : Engine := Engine.new ⟨.memory, {}⟩ none [.withRetryInterval 3]

def failingSend : Env := { send := fun _ => .returns (some ⟨"smtp: connection refused"⟩) }

/-- All bits of the interval have been shifted out by then. -/
theorem retry_sleep_bounded_late : 2 ≤ quickEngine.retryInterval ∧ IsInt64 quickEngine.retryInterval ∧
    ∃ jitter, pause quickEngine.effectiveInterval 71 failingSend {} =
        sleepOrDone 71 (sleepTime (backoff quickEngine.effectiveInterval 70) jitter) failingSend {} ∧
      BoundedSleep (backoff quickEngine.effectiveInterval 70)
        (sleepTime (backoff quickEngine.effectiveInterval 70) jitter) :=
  ⟨by decide, ⟨by decide, by decide⟩,
    (retry_sleep_bounded quickEngine (by decide) ⟨by decide, by decide⟩ 70 failingSend {}).2⟩

end MailBaby.Proofs
