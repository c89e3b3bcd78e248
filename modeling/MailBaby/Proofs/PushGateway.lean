import MailBaby.Metrics.PushGateway

/-!
# Waiting for the push gateway

The cap comes after every doubling, so the wait is exact for every outage. The counter of the warnings wraps.
-/

namespace MailBaby.Metrics

open Lib

variable {cfg : PushGatewayConfig} {k : Nat}

def PushLoop.after (cfg : PushGatewayConfig) (k : Nat) : PushLoop := ⟨outageWait cfg k, wrap64 k⟩

lemma after_zero (cfg : PushGatewayConfig) : PushLoop.after cfg 0 = {} := by
  have hwrap : wrap64 0 = 0 := by decide
  exact congrArg (PushLoop.mk 0) hwrap

lemma pushInterval_pos (cfg : PushGatewayConfig) : 0 < cfg.pushInterval := by
  unfold PushGatewayConfig.pushInterval second
  split_ifs <;> omega

lemma outageWait_pos (cfg : PushGatewayConfig) (k : Nat) : 0 < outageWait cfg (k + 1) := by
  rw [outageWait, if_neg k.succ_ne_zero]
  exact lt_min (Int.mul_pos (pushInterval_pos cfg) (Int.pow_pos (by decide))) (by decide)

lemma outageWait_le (cfg : PushGatewayConfig) (k : Nat) : outageWait cfg (k + 1) ≤ maxBackoff := by
  rw [outageWait, if_neg k.succ_ne_zero]
  exact min_le_right _ _

lemma outageWait_one (cfg : PushGatewayConfig) : outageWait cfg 1 = min cfg.pushInterval maxBackoff := by
  rw [outageWait, if_neg (by decide), Nat.sub_self, pow_zero, mul_one]

lemma outageWait_succ (cfg : PushGatewayConfig) (k : Nat) :
    outageWait cfg (k + 2) = min (outageWait cfg (k + 1) * 2) maxBackoff := by
  have hcap : (0 : Int) < maxBackoff := by decide
  simp only [outageWait, Nat.add_eq_zero_iff, OfNat.ofNat_ne_zero, one_ne_zero, and_false, if_false,
    Nat.add_sub_cancel, show k + 2 - 1 = k + 1 from rfl, pow_succ, ← mul_assoc]
  omega

lemma wrap64_succ (k : Nat) : wrap64 (wrap64 k + 1) = wrap64 (k + 1 : Nat) := by
  unfold wrap64
  rw [Int.bmod_add_bmod, Nat.cast_succ]

lemma pushOnce_after (cfg : PushGatewayConfig) (k : Nat) (err : Option String) :
    ((PushLoop.after cfg k).pushOnce cfg err).1 = .after cfg (nextFailures k err) := by
  cases err with
  | none => exact (after_zero cfg).symm
  | some text =>
    have hbackoff : (if outageWait cfg k = 0 then cfg.pushInterval else wrap64 (outageWait cfg k * 2)) =
        if k = 0 then cfg.pushInterval else outageWait cfg k * 2 := by
      cases k with
      | zero => rfl
      | succ k =>
        have hpos := outageWait_pos cfg k
        have hle := outageWait_le cfg k
        have hcap : maxBackoff < 2 ^ 62 := by decide
        rw [if_neg (by omega), if_neg k.succ_ne_zero, wrap64_of_nonneg (by omega) (by omega)]
    unfold PushLoop.pushOnce PushLoop.after nextFailures
    simp only [Option.isSome_some, if_true, PushLoop.mk.injEq, wrap64_succ, and_true, hbackoff]
    cases k with
    | zero =>
      rw [if_pos rfl, outageWait_one]
      omega
    | succ k =>
      rw [if_neg k.succ_ne_zero, outageWait_succ]
      omega

lemma turns_after (cfg : PushGatewayConfig) (k : Nat) (history : List (Option String)) (i : Nat) :
    ((PushLoop.after cfg k).turns cfg history)[i]? =
      history[i]?.map ((PushLoop.after cfg ((history.take i).foldl nextFailures k)).turn cfg) := by
  induction history generalizing k i with
  | nil => rfl
  | cons err rest ih =>
    rw [PushLoop.turns, pushOnce_after]
    cases i with
    | zero => rfl
    | succ i => simpa using ih (nextFailures k err) i

lemma turns_get (cfg : PushGatewayConfig) (history : List (Option String)) (i : Nat) :
    (cfg.turns history)[i]? = history[i]?.map ((PushLoop.after cfg (failures (history.take i))).turn cfg) := by
  rw [PushGatewayConfig.turns, ← after_zero cfg]
  exact turns_after cfg 0 history i

lemma failures_take_succ {history : List (Option String)} {i : Nat} {err : Option String}
    (h : history[i]? = some err) :
    failures (history.take (i + 1)) = nextFailures (failures (history.take i)) err := by
  rw [failures, List.take_add_one, h, List.foldl_append]
  rfl

lemma wait_turn (cfg : PushGatewayConfig) (k : Nat) (err : Option String) :
    ((PushLoop.after cfg k).turn cfg err).wait = outageWait cfg (nextFailures k err) := by
  unfold PushLoop.turn
  dsimp only
  rw [pushOnce_after]
  change (if outageWait cfg _ > 0 then outageWait cfg _ else 0) = _
  cases nextFailures k err with
  | zero => rfl
  | succ n => exact if_pos (outageWait_pos cfg n)

/-! ### The warnings -/

lemma warning_turn_none (cfg : PushGatewayConfig) (k : Nat) :
    ((PushLoop.after cfg k).turn cfg none).warning = none := rfl

lemma warning_turn_some (cfg : PushGatewayConfig) (k : Nat) (text : String) :
    ((PushLoop.after cfg k).turn cfg (some text)).warning.isSome ↔
      wrap64 (k + 1 : Nat) = 1 ∨ (wrap64 (k + 1 : Nat)).tmod 5 = 0 := by
  dsimp only [PushLoop.turn, PushLoop.pushOnce, PushLoop.after, warnEveryFailures]
  rw [wrap64_succ]
  exact Option.isSome_ite

def firstMissed : Nat := 2 ^ 63 + 2

lemma warned_iff (hpos : 0 < k) (hk : k < firstMissed) :
    (wrap64 k = 1 ∨ (wrap64 k).tmod 5 = 0) ↔ WarningDue k := by
  have hcases : k < 2 ^ 63 ∨ k = 2 ^ 63 ∨ k = 2 ^ 63 + 1 := by
    unfold firstMissed at hk
    omega
  obtain hsmall | rfl | rfl := hcases
  · rw [wrap64_of_nonneg (by omega) (by omega), Int.tmod_eq_emod_of_nonneg (by omega), WarningDue]
    omega
  · unfold WarningDue
    decide
  · unfold WarningDue
    decide

lemma not_warned_firstMissed : ¬(wrap64 firstMissed = 1 ∨ (wrap64 firstMissed).tmod 5 = 0) := by decide

lemma warningDue_firstMissed : WarningDue firstMissed := .inr (by decide)

lemma warning_turn_iff (cfg : PushGatewayConfig) (err : Option String) (hk : nextFailures k err < firstMissed) :
    ((PushLoop.after cfg k).turn cfg err).warning.isSome ↔ WarningDue (nextFailures k err) := by
  cases err with
  | none =>
    rw [warning_turn_none]
    exact iff_of_false Bool.false_ne_true (by rintro (h | ⟨h, -⟩) <;> cases h)
  | some text =>
    rw [warning_turn_some]
    exact warned_iff k.succ_pos hk

/-- An outage that gets too long has been `firstMissed` failures long before. -/
lemma exists_firstMissed {history : List (Option String)} {n : Nat}
    (h : firstMissed ≤ failures (history.take n)) :
    ∃ i err, history[i]? = some err ∧ nextFailures (failures (history.take i)) err = firstMissed := by
  induction n with
  | zero => exact absurd h (Nat.not_succ_le_zero _)
  | succ n ih =>
    by_cases hbefore : firstMissed ≤ failures (history.take n)
    · exact ih hbefore
    · cases hn : history[n]? with
      | none =>
        rw [List.take_add_one, hn, Option.toList_none, List.append_nil] at h
        exact absurd h hbefore
      | some err =>
        rw [failures_take_succ hn] at h
        refine ⟨n, err, hn, ?_⟩
        unfold nextFailures at h ⊢
        split_ifs at h ⊢ <;> omega

lemma not_warned_of_firstMissed {err : Option String} (h : nextFailures k err = firstMissed) :
    ¬((PushLoop.after cfg k).turn cfg err).warning.isSome := by
  cases err with
  | none => exact absurd h (Nat.zero_ne_add_one _)
  | some text =>
    rw [warning_turn_some, show k + 1 = firstMissed from h]
    exact not_warned_firstMissed

end MailBaby.Metrics

namespace MailBaby.Proofs

open Lib Metrics

/-- The waits follow the outage, and the warnings do exactly as long as no outage is `2 ^ 63 + 2` failures long. -/
theorem push_backoff_iff (cfg : PushGatewayConfig) (history : List (Option String)) :
    (cfg.turns history).length = history.length ∧
      (∀ i turn, (cfg.turns history)[i]? = some turn →
        turn.wait = outageWait cfg (failures (history.take (i + 1)))) ∧
      ((∀ i turn, (cfg.turns history)[i]? = some turn →
          (turn.warning.isSome ↔ WarningDue (failures (history.take (i + 1))))) ↔
        ∀ n, failures (history.take n) < 2 ^ 63 + 2) := by
  have hturn {i : Nat} {turn : PushTurn} (h : (cfg.turns history)[i]? = some turn) :
      ∃ err, history[i]? = some err ∧ turn = (PushLoop.after cfg (failures (history.take i))).turn cfg err := by
    rw [turns_get, Option.map_eq_some_iff] at h
    obtain ⟨err, herr, rfl⟩ := h
    exact ⟨err, herr, rfl⟩
  refine ⟨?_, ?_, ?_, ?_⟩
  · apply Nat.le_antisymm
    · rw [← List.getElem?_eq_none_iff, turns_get, List.getElem?_eq_none (Nat.le_refl _)]
      rfl
    · rw [← List.getElem?_eq_none_iff]
      have hnone := turns_get cfg history (cfg.turns history).length
      rw [List.getElem?_eq_none (Nat.le_refl _)] at hnone
      exact Option.map_eq_none_iff.mp hnone.symm
  · intro i turn h
    obtain ⟨err, herr, rfl⟩ := hturn h
    rw [wait_turn, failures_take_succ herr]
  · intro h n
    by_contra hlong
    obtain ⟨i, err, herr, hfirst⟩ := exists_firstMissed (not_lt.mp hlong)
    have hwarned := h i _ (by rw [turns_get, herr]; rfl)
    rw [failures_take_succ herr, hfirst] at hwarned
    exact not_warned_of_firstMissed hfirst (hwarned.mpr warningDue_firstMissed)
  · intro h i turn hget
    obtain ⟨err, herr, rfl⟩ := hturn hget
    rw [failures_take_succ herr]
    exact warning_turn_iff cfg err (failures_take_succ herr ▸ h (i + 1))

/-- The failure number `2 ^ 63 + 2` is a multiple of five and is not warned of. -/
theorem push_warning_missed :
    ∃ turn, (({} : PushGatewayConfig).turns (List.replicate (2 ^ 63 + 2) (some "refused")))[2 ^ 63 + 1]? = some turn ∧
      failures (List.replicate (2 ^ 63 + 2) (some "refused")) = 2 ^ 63 + 2 ∧ WarningDue (2 ^ 63 + 2) ∧
      turn.warning.isSome = false := by
  have hcount (n : Nat) : failures (List.replicate n (some "refused")) = n := by
    induction n with
    | zero => rfl
    | succ n ih =>
      rw [List.replicate_succ', failures, List.foldl_append]
      exact congrArg (· + 1) ih
  refine ⟨(PushLoop.after {} (2 ^ 63 + 1)).turn {} (some "refused"), ?_, hcount _, warningDue_firstMissed, ?_⟩
  · rw [turns_get, List.getElem?_replicate_of_lt (by decide), List.take_replicate, hcount]
    rfl
  · exact Bool.eq_false_iff.mpr (not_warned_of_firstMissed rfl)

end MailBaby.Proofs
