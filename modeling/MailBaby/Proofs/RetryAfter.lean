import MailBaby.Handler.Gate
import MailBaby.Proofs.LimiterState

/-!
# Waiting for `Retry-After`

A denied request is told to wait for the rest of its window, rounded to whole seconds.
-/

namespace MailBaby.Proofs

open Lib MailBaby.Handler

namespace RetryAfter

open RateLimit

def second : Duration := 1000000000

def RoundsUp (d : Duration) : Prop := d ≤ second ∨ d % second = 0 ∨ second / 2 ≤ d % second

instance (d : Duration) : Decidable (RoundsUp d) :=
  inferInstanceAs (Decidable (d ≤ second ∨ d % second = 0 ∨ second / 2 ≤ d % second))

lemma roundsUp_iff (d : Int) (hd : 0 < d) : RoundsUp d ↔ d ≤ retryAfterSeconds d * second := by
  change d ≤ 1000000000 ∨ d % 1000000000 = 0 ∨ (1000000000 : Int) / 2 ≤ d % 1000000000 ↔
    d ≤ max 1 ((d + 500000000) / 1000000000) * 1000000000
  omega

/-! ### A denied call and the next one -/

section Limiter

variable {r : KeyRateLimiter} {fingerprint : String → String} {now : Time} {rawKey : String} {b : KeyBucket}

lemma allow_of_full (hkey : rawKey ≠ "") (hopen : r.openBucket (fingerprint rawKey) now = some b)
    (hfull : r.cap ≤ b.count) (order : RangeOrder (Σ _ : String, KeyBucket)) :
    (r.allow fingerprint order now rawKey).2 =
      { r with buckets := r.buckets.insert (fingerprint rawKey) b } := by
  unfold KeyRateLimiter.allow
  rw [if_neg hkey]
  dsimp only
  rw [hopen]
  dsimp only [KeyRateLimiter.takeFrom]
  rw [if_pos hfull]

lemma denied_again_iff (hcap : 0 < r.cap) (hkey : rawKey ≠ "")
    (hopen : r.openBucket (fingerprint rawKey) now = some b) (hfull : r.cap ≤ b.count)
    (order order' : RangeOrder (Σ _ : String, KeyBucket)) (later : Time) :
    ((r.allow fingerprint order now rawKey).2.allow fingerprint order' later rawKey).1.1 = false ↔
      later - b.windowStart < r.window := by
  rw [allow_of_full hkey hopen hfull]
  generalize hr' : ({ r with buckets := r.buckets.insert (fingerprint rawKey) b } : KeyRateLimiter) = r'
  have hlookup : r'.buckets.lookup (fingerprint rawKey) = some b := by
    rw [← hr', AList.lookup_insert]
  have hcap' : 0 < r'.cap := by
    rw [← hr']
    exact hcap
  have hwindow : r'.window = r.window := by rw [← hr']
  have hfull' : r'.cap ≤ b.count := by
    rw [← hr']
    exact hfull
  rw [← hwindow]
  constructor
  · intro hdenied
    obtain ⟨-, b', hb', -⟩ :=
      (denied_iff hcap' order' later rawKey _).mp (Prod.ext hdenied rfl)
    obtain ⟨hb, hlt⟩ := openBucket_eq_some.mp hb'
    obtain rfl := Option.some.inj (hlookup.symm.trans hb)
    exact hlt
  · intro hlt
    have hopen' := openBucket_eq_some.mpr ⟨hlookup, hlt⟩
    exact congrArg Prod.fst ((denied_iff hcap' order' later rawKey _).mpr ⟨hkey, b, hopen', hfull', rfl⟩)

end Limiter

/-! ### The server -/

variable {sha256 : Bytes → Vector UInt8 32} {g : AuthGate} {q : GateRequest} {s s' : GateTrace}

lemma authenticated_iff : g.authenticated q = true ↔
    g.cfg.enabled = true ∧ g.providedKey q ≠ "" ∧ g.providedKey q = g.cfg.secretKey := by
  simp only [AuthGate.authenticated, Bool.and_eq_true, bne_iff_ne, beq_iff_eq, and_assoc]

lemma answer_of_authenticated (h : g.authenticated q = true) :
    g.answer sha256 q = (g.retryAfter sha256 q (g.providedKey q)).elim .next fun d =>
      .deny 429 (some (retryAfterSeconds d))
        ⟨429, "rate_limited", "per-key request rate exceeded; retry after Retry-After seconds"⟩ := by
  obtain ⟨henabled, hne, hkey⟩ := authenticated_iff.mp h
  have hright : ¬(extractToken q.headers g.cfg.headerName = "" ∨
      extractToken q.headers g.cfg.headerName ≠ g.cfg.secretKey) := by
    rintro (hempty | hother)
    · exact hne hempty
    · exact hother hkey
  unfold AuthGate.answer authMiddleware AuthGate.providedKey
  simp only [henabled, if_neg hright, Bool.not_true, Bool.false_eq_true, if_false]
  cases g.retryAfter sha256 q (extractToken q.headers g.cfg.headerName) <;> rfl

lemma isRateLimited_of_not_authenticated (h : g.authenticated q = false) :
    (g.answer sha256 q).isRateLimited = false := by
  unfold AuthGate.answer authMiddleware
  cases henabled : g.cfg.enabled with
  | false => rfl
  | true =>
    have hwrong : extractToken q.headers g.cfg.headerName = "" ∨
        extractToken q.headers g.cfg.headerName ≠ g.cfg.secretKey := by
      by_contra hright
      obtain ⟨hne, hkey⟩ := not_or.mp hright
      have hauth := authenticated_iff.mpr ⟨henabled, hne, not_not.mp hkey⟩
      rw [h] at hauth
      cases hauth
    simp only [if_pos hwrong, Bool.not_true, Bool.false_eq_true, if_false]
    rfl

lemma isRateLimited_answer (h : g.authenticated q = true) :
    (g.answer sha256 q).isRateLimited = !(g.allow sha256 q (g.providedKey q)).1.1 := by
  rw [answer_of_authenticated h, AuthGate.retryAfter]
  cases (g.allow sha256 q (g.providedKey q)).1.1 <;> rfl

lemma answer_eq_deny {secs : Option Int} {body : AuthErrorResponse}
    (h : g.answer sha256 q = .deny 429 secs body) :
    g.authenticated q = true ∧ (g.allow sha256 q (g.providedKey q)).1.1 = false ∧
      secs = some (retryAfterSeconds (g.allow sha256 q (g.providedKey q)).1.2) := by
  have hlimited : (g.answer sha256 q).isRateLimited = true := by
    rw [h]
    rfl
  have hauth : g.authenticated q = true := by
    by_contra hnot
    rw [isRateLimited_of_not_authenticated (Bool.eq_false_iff.mpr hnot)] at hlimited
    cases hlimited
  have hdenied : (g.allow sha256 q (g.providedKey q)).1.1 = false := by
    rw [isRateLimited_answer hauth] at hlimited
    simpa using hlimited
  rw [answer_of_authenticated hauth, AuthGate.retryAfter, hdenied] at h
  obtain ⟨-, hsecs, -⟩ := AuthResult.deny.inj h
  exact ⟨hauth, hdenied, hsecs.symm⟩

/-! ### Runs of the server -/

lemma request_eq (h : s.request sha256 q = some s') :
    s.clock ≤ q.now ∧ s' = ⟨s.gate.serve sha256 q, q.now⟩ := by
  unfold GateTrace.request at h
  split at h <;> rename_i hclock
  · cases h
  · exact ⟨Int.not_lt.mp hclock, (Option.some.inj h).symm⟩

def Behind (sha256 : Bytes → Vector UInt8 32) (cfg : AuthConfig) (perMinute : Int) (start : Time)
    (s : GateTrace) : Prop :=
  s.gate.cfg = cfg ∧ ∃ calls l, run (LimiterTrace.call (fingerprint sha256)) (limiterStart perMinute start)
    calls = some l ∧ l.limiter = s.gate.limiter ∧ l.clock ≤ s.clock

lemma behind_request {cfg : AuthConfig} {perMinute : Int} {start : Time}
    (hs : Behind sha256 cfg perMinute start s) (h : s.request sha256 q = some s') :
    Behind sha256 cfg perMinute start s' := by
  obtain ⟨hcfg, calls, l, hrun, hlimiter, hclock⟩ := hs
  obtain ⟨hnow, rfl⟩ := request_eq h
  unfold AuthGate.serve
  split
  · obtain ⟨l', hcall⟩ : ∃ l', l.call (fingerprint sha256) ⟨s.gate.providedKey q, q.now, q.order⟩ = some l' :=
      ⟨_, if_neg (Int.not_lt.mpr (Int.le_trans hclock hnow))⟩
    refine ⟨hcfg, calls ++ [⟨s.gate.providedKey q, q.now, q.order⟩], l',
      run_append_of hrun (by simp [run, hcall]), ?_, ?_⟩
    · rw [call_limiter hcall, hlimiter]
      rfl
    · rw [(call_cases hcall).2.1]
  · exact ⟨hcfg, calls, l, hrun, hlimiter, Int.le_trans hclock hnow⟩

lemma behind_run {cfg : AuthConfig} {perMinute : Int} {start : Time} {qs : List GateRequest}
    (h : run (GateTrace.request sha256) ⟨newAuthGate cfg perMinute, start⟩ qs = some s) :
    Behind sha256 cfg perMinute start s :=
  run_invariant (I := Behind sha256 cfg perMinute start) (fun _ _ _ hs h => behind_request hs h)
    ⟨rfl, [], limiterStart perMinute start, rfl, rfl, Int.le_refl _⟩ h

lemma gate_of_others {between : List GateRequest} (hauth : s.gate.authenticated q = true)
    (hothers : ∀ p ∈ between, s.gate.providedKey p ≠ s.gate.providedKey q)
    (h : run (GateTrace.request sha256) s between = some s') : s'.gate = s.gate := by
  have halong : Along (GateTrace.request sha256) (fun _ p => s.gate.providedKey p ≠ s.gate.providedKey q) s between :=
    along_of_forall hothers
  refine run_invariant_along (I := fun t => t.gate = s.gate) ?_ rfl halong h
  intro t p t' ht hother hp
  obtain ⟨-, rfl⟩ := request_eq hp
  change t.gate.serve sha256 p = s.gate
  rw [ht]
  have hnot : ¬s.gate.authenticated p = true := by
    intro hp
    exact hother ((authenticated_iff.mp hp).2.2.trans (authenticated_iff.mp hauth).2.2.symm)
  exact if_neg hnot

end RetryAfter

open RetryAfter RateLimit

/-- After a request that was told to wait so many seconds, a request with the same key is not told to
wait again if it comes then and none with the key came in between. -/
def EnoughToWait (sha256 : Bytes → Vector UInt8 32) (s : GateTrace) (q : GateRequest) (secs : Int) : Prop :=
  ∀ between s', run (GateTrace.request sha256) ⟨s.gate.serve sha256 q, q.now⟩ between = some s' →
    (∀ p ∈ between, s.gate.providedKey p ≠ s.gate.providedKey q) →
    ∀ again : GateRequest, s.gate.providedKey again = s.gate.providedKey q →
      again.now = q.now + secs * second → s'.clock ≤ again.now →
      (s'.gate.answer sha256 again).isRateLimited = false

/-- The wait is long enough exactly if the rest of the window was not rounded down. -/
theorem retryAfter_enough_iff (sha256 : Bytes → Vector UInt8 32) (cfg : AuthConfig) (perMinute : Int)
    (start : Time) (history : List GateRequest) (s : GateTrace)
    (hrun : run (GateTrace.request sha256) ⟨newAuthGate cfg perMinute, start⟩ history = some s)
    (q : GateRequest) (secs : Int) (body : AuthErrorResponse)
    (hdenied : s.gate.answer sha256 q = .deny 429 (some secs) body) :
    EnoughToWait sha256 s q secs ↔ RoundsUp (s.gate.allow sha256 q (s.gate.providedKey q)).1.2 := by
  obtain ⟨-, calls, l, hl, hlimiter, -⟩ := behind_run hrun
  have hcap : 0 < s.gate.limiter.cap := by
    rw [← hlimiter, (kept_run sha256 hl).limit]
    exact cap_newKeyRateLimiter perMinute
  obtain ⟨hauth, hfalse, hsecs⟩ := answer_eq_deny hdenied
  obtain rfl := Option.some.inj hsecs
  obtain ⟨hkey, b, hopen, hfull, hrest⟩ :=
    (denied_iff hcap q.order q.now (s.gate.providedKey q) _).mp (Prod.ext hfalse rfl)
  have hserve : s.gate.serve sha256 q =
      { s.gate with limiter := (s.gate.allow sha256 q (s.gate.providedKey q)).2 } := if_pos hauth
  have hwindow := (openBucket_eq_some.mp hopen).2
  change (s.gate.allow sha256 q (s.gate.providedKey q)).1.2 = _ at hrest
  have hpositive : 0 < (s.gate.allow sha256 q (s.gate.providedKey q)).1.2 := by
    rw [hrest]
    linarith
  have hone : 1 ≤ retryAfterSeconds (s.gate.allow sha256 q (s.gate.providedKey q)).1.2 := Int.le_max_left _ _
  rw [roundsUp_iff _ hpositive]
  generalize retryAfterSeconds (s.gate.allow sha256 q (s.gate.providedKey q)).1.2 = secs at *
  -- what the limiter answers at the end of the wait
  have hagain : ∀ again : GateRequest, s.gate.providedKey again = s.gate.providedKey q →
      again.now = q.now + secs * second →
      (((s.gate.serve sha256 q).answer sha256 again).isRateLimited = true ↔
        secs * second < (s.gate.allow sha256 q (s.gate.providedKey q)).1.2) := by
    intro again hsame hnow
    have hauth' : (s.gate.serve sha256 q).authenticated again = true := by
      rw [hserve]
      unfold AuthGate.authenticated at hauth ⊢
      change (_ && s.gate.providedKey again != "" && s.gate.providedKey again == _) = true
      rw [hsame]
      exact hauth
    have hiff := denied_again_iff hcap hkey hopen hfull q.order again.order again.now
    rw [isRateLimited_answer hauth', Bool.not_eq_true']
    have hallow : (s.gate.serve sha256 q).allow sha256 again ((s.gate.serve sha256 q).providedKey again) =
        (s.gate.limiter.allow (fingerprint sha256) q.order q.now (s.gate.providedKey q)).2.allow
          (fingerprint sha256) again.order again.now (s.gate.providedKey q) := by
      rw [hserve]
      unfold AuthGate.allow
      rw [← hsame]
      rfl
    rw [hallow, hiff, hrest, hnow]
    constructor
    · intro h
      linarith
    · intro h
      linarith
  have hsecond : (0 : Int) ≤ secs * second := by
    change (0 : Int) ≤ secs * 1000000000
    omega
  constructor
  · intro henough
    by_contra hshort
    have hlimited := (hagain { q with now := q.now + secs * second } rfl rfl).mpr (Int.not_le.mp hshort)
    have hnot := henough [] _ rfl (fun _ hp => (List.not_mem_nil hp).elim)
      { q with now := q.now + secs * second } rfl rfl (Int.le_add_of_nonneg_right hsecond)
    exact Bool.false_ne_true (hnot.symm.trans hlimited)
  · intro hlong between s' hbetween hothers again hsame hnow _
    have hgate : s'.gate = s.gate.serve sha256 q := by
      have hauth' : (s.gate.serve sha256 q).authenticated q = true := by
        rw [hserve]
        exact hauth
      refine gate_of_others (s := ⟨s.gate.serve sha256 q, q.now⟩) hauth' (fun p hp => ?_) hbetween
      change (s.gate.serve sha256 q).providedKey p ≠ (s.gate.serve sha256 q).providedKey q
      rw [hserve]
      exact hothers p hp
    rw [hgate]
    exact Bool.eq_false_iff.mpr fun hlimited => absurd hlong (Int.not_le.mpr ((hagain again hsame hnow).mp hlimited))

def keyedConfig : AuthConfig := { enabled := true, secretKey := "k", headerName := "X-API-Key" }

def keyedAt (milliseconds : Int) : GateRequest := ⟨[("X-API-Key", "k")], milliseconds * 1000000, .stored⟩

/-- One request a minute, and the second one after 59 seconds. -/
theorem retryAfter_enough_last_second :
    ∃ s body, run (GateTrace.request sameDigest) ⟨newAuthGate keyedConfig 1, 0⟩ [keyedAt 0] = some s ∧
      s.gate.answer sameDigest (keyedAt 59000) = .deny 429 (some 1) body ∧
      EnoughToWait sameDigest s (keyedAt 59000) 1 := by
  obtain ⟨s, body, hrun, hdenied, hround⟩ : ∃ s body,
      run (GateTrace.request sameDigest) ⟨newAuthGate keyedConfig 1, 0⟩ [keyedAt 0] = some s ∧
        s.gate.answer sameDigest (keyedAt 59000) = .deny 429 (some 1) body ∧
        RoundsUp (s.gate.allow sameDigest (keyedAt 59000) (s.gate.providedKey (keyedAt 59000))).1.2 :=
    ⟨_, ⟨429, "rate_limited", "per-key request rate exceeded; retry after Retry-After seconds"⟩, rfl,
      by decide +kernel, by decide +kernel⟩
  exact ⟨s, body, hrun, hdenied,
    (retryAfter_enough_iff sameDigest keyedConfig 1 0 _ s hrun (keyedAt 59000) 1 body hdenied).mpr hround⟩

/-- The second request comes with 1.4 seconds left and is told to wait for one; the third one, a second
later, is denied again. -/
theorem retryAfter_too_short :
    ∃ s body s', run (GateTrace.request sameDigest) ⟨newAuthGate keyedConfig 1, 0⟩ [keyedAt 0] = some s ∧
      s.gate.answer sameDigest (keyedAt 58600) = .deny 429 (some 1) body ∧
      s.request sameDigest (keyedAt 58600) = some s' ∧
      (s'.gate.answer sameDigest (keyedAt 59600)).isRateLimited = true ∧
      ¬EnoughToWait sameDigest s (keyedAt 58600) 1 := by
  obtain ⟨s, hrun, hdenied, hclock, hagain⟩ : ∃ s,
      run (GateTrace.request sameDigest) ⟨newAuthGate keyedConfig 1, 0⟩ [keyedAt 0] = some s ∧
        s.gate.answer sameDigest (keyedAt 58600) = .deny 429 (some 1)
          ⟨429, "rate_limited", "per-key request rate exceeded; retry after Retry-After seconds"⟩ ∧
        ¬(keyedAt 58600).now < s.clock ∧
        ((s.gate.serve sameDigest (keyedAt 58600)).answer sameDigest (keyedAt 59600)).isRateLimited = true :=
    ⟨_, rfl, by decide +kernel, by decide, by decide +kernel⟩
  refine ⟨s, _, _, hrun, hdenied, if_neg hclock, hagain, fun henough => ?_⟩
  have hlater : (keyedAt 58600).now ≤ (keyedAt 59600).now := by decide
  have hnot := henough [] _ rfl (fun _ hp => (List.not_mem_nil hp).elim) (keyedAt 59600) rfl (by decide) hlater
  exact Bool.false_ne_true (hnot.symm.trans hagain)

end MailBaby.Proofs
