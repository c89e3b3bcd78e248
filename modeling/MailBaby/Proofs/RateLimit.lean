import Mathlib.Data.Set.Function
import Mathlib.Tactic.Linarith
import MailBaby.Handler.RateLimit

/-!
# The cap of the rate limiter

The limiter counts in windows of its own, so the cap holds in every other interval of the same length only
as long as no window starts too soon after an allowed call.
-/

namespace MailBaby.Proofs

open Lib MailBaby.Handler

namespace RateLimit

/-! ### One call -/

section Call

variable {r : KeyRateLimiter} {fp : String} {now : Time} {b : KeyBucket}

structure Shrunk (r r' : KeyRateLimiter) : Prop where
  cap : r'.cap = r.cap
  window : r'.window = r.window
  lookup : ∀ fp b, r'.buckets.lookup fp = some b → r.buckets.lookup fp = some b

lemma Shrunk.refl (r : KeyRateLimiter) : Shrunk r r := ⟨rfl, rfl, fun _ _ h => h⟩

lemma shrunk_evictOldestLocked (order : RangeOrder (Σ _ : String, KeyBucket)) :
    Shrunk r (r.evictOldestLocked order now) := by
  unfold KeyRateLimiter.evictOldestLocked
  cases (order.arrange r.buckets.entries).foldl KeyRateLimiter.older none with
  | none => exact Shrunk.refl r
  | some oldest =>
    dsimp only
    split
    · refine ⟨rfl, rfl, fun fp b h => ?_⟩
      have hne : fp ≠ oldest.1 := by
        rintro rfl
        rw [AList.lookup_erase] at h
        cases h
      rwa [AList.lookup_erase_ne hne] at h
    · exact Shrunk.refl r

lemma shrunk_makeRoom (order : RangeOrder (Σ _ : String, KeyBucket)) :
    Shrunk r (r.makeRoom order fp now) := by
  unfold KeyRateLimiter.makeRoom
  split
  · exact shrunk_evictOldestLocked order
  · exact Shrunk.refl r

lemma openBucket_eq_some :
    r.openBucket fp now = some b ↔ r.buckets.lookup fp = some b ∧ now - b.windowStart < r.window := by
  unfold KeyRateLimiter.openBucket
  simp only [Option.filter_eq_some_iff, decide_eq_true_eq]

def InForce (r : KeyRateLimiter) (fp : String) (now : Time) (b : KeyBucket) : Prop :=
  r.openBucket fp now = some b ∨ r.openBucket fp now = none ∧ b = ⟨now, 0⟩

lemma allow_eq (r : KeyRateLimiter) (fingerprint : String → String)
    (order : RangeOrder (Σ _ : String, KeyBucket)) (now : Time) {rawKey : String} (hkey : rawKey ≠ "") :
    ∃ r' b, r.allow fingerprint order now rawKey = r'.takeFrom (fingerprint rawKey) now b ∧
      Shrunk r r' ∧ InForce r (fingerprint rawKey) now b := by
  unfold KeyRateLimiter.allow
  rw [if_neg hkey]
  dsimp only
  cases h : r.openBucket (fingerprint rawKey) now with
  | some b => exact ⟨r, b, rfl, Shrunk.refl r, .inl h⟩
  | none => exact ⟨_, _, rfl, shrunk_makeRoom order, .inr ⟨h, rfl⟩⟩

/-- What a call leaves behind: the bucket in force, with the call counted if it was allowed. -/
def left (b : KeyBucket) (allowed : Bool) : KeyBucket :=
  if allowed then { b with count := b.count + 1 } else b

@[simp] lemma left_windowStart (b : KeyBucket) (allowed : Bool) :
    (left b allowed).windowStart = b.windowStart := by cases allowed <;> rfl

lemma takeFrom_eq (r : KeyRateLimiter) (fp : String) (now : Time) (b : KeyBucket) :
    (r.takeFrom fp now b).2 =
      { r with buckets := r.buckets.insert fp (left b (r.takeFrom fp now b).1.1) } ∧
      ((r.takeFrom fp now b).1.1 = true ↔ b.count < r.cap) := by
  unfold KeyRateLimiter.takeFrom
  split <;> rename_i hcount
  · exact ⟨rfl, by simpa using hcount⟩
  · exact ⟨rfl, by simpa using hcount⟩

end Call

variable {fingerprint : String → String} {s s' : LimiterTrace} {c : LimiterCall} {cap : Int}

lemma call_cases (h : s.call fingerprint c = some s') :
    s.clock ≤ c.now ∧ s'.clock = c.now ∧
      ((c.rawKey = "" ∧ s'.limiter = s.limiter ∧ s'.allowed = c :: s.allowed) ∨
        c.rawKey ≠ "" ∧ ∃ r b allowed, Shrunk s.limiter r ∧
          InForce s.limiter (fingerprint c.rawKey) c.now b ∧ (allowed = true ↔ b.count < s.limiter.cap) ∧
          s'.limiter = { r with buckets := r.buckets.insert (fingerprint c.rawKey) (left b allowed) } ∧
          s'.allowed = if allowed then c :: s.allowed else s.allowed) := by
  unfold LimiterTrace.call at h
  split at h <;> rename_i hclock
  · cases h
  · obtain rfl := Option.some.inj h
    refine ⟨Int.not_lt.mp hclock, rfl, ?_⟩
    by_cases hkey : c.rawKey = ""
    · exact .inl ⟨hkey, by simp [KeyRateLimiter.allow, hkey], by simp [KeyRateLimiter.allow, hkey]⟩
    · obtain ⟨r, b, hallow, hshrunk, hforce⟩ := allow_eq s.limiter fingerprint c.order c.now hkey
      obtain ⟨hleft, htaken⟩ := takeFrom_eq r (fingerprint c.rawKey) c.now b
      rw [hshrunk.cap] at htaken
      rw [hallow]
      exact .inr ⟨hkey, r, b, _, hshrunk, hforce, htaken, hleft, rfl⟩

/-! ### Runs -/

def allowedAfter (s : LimiterTrace) (key : String) (t : Time) : Nat :=
  s.allowed.countP fun c => c.rawKey = key ∧ t < c.now

/-- The invariant of the runs in which no window starts too soon. The keys of `K` have distinct
fingerprints. -/
structure Bounded (fingerprint : String → String) (K : Set String) (cap : Int) (s : LimiterTrace) :
    Prop where
  limit : s.limiter.cap = cap
  window : s.limiter.window = minute
  keys : ∀ d ∈ s.allowed, d.rawKey ∈ K
  started : ∀ fp b, s.limiter.buckets.lookup fp = some b → b.windowStart ≤ s.clock
  /-- A bucket has counted whatever was allowed since a window before its start. -/
  counted : ∀ key ∈ K, key ≠ "" → ∀ b, s.limiter.buckets.lookup (fingerprint key) = some b →
    (allowedAfter s key (b.windowStart - minute) : Int) ≤ b.count
  capped : s.Capped cap

lemma allowedIn_le_of_counted {b : KeyBucket} (hstart : b.windowStart ≤ c.now)
    (hcounted : (allowedAfter s c.rawKey (b.windowStart - minute) : Int) ≤ b.count) (hroom : b.count < cap)
    (hcapped : ∀ t, (s.allowedIn c.rawKey t : Int) ≤ cap) (hallowed : s'.allowed = c :: s.allowed) (t : Time) :
    (s'.allowedIn c.rawKey t : Int) ≤ cap := by
  by_cases hin : t ≤ c.now ∧ c.now < t + minute
  · have hcons : s'.allowedIn c.rawKey t = s.allowedIn c.rawKey t + 1 := by
      simp [LimiterTrace.allowedIn, hallowed, hin]
    have hmono : s.allowedIn c.rawKey t ≤ allowedAfter s c.rawKey (b.windowStart - minute) := by
      refine List.countP_mono_left fun d _ hd => ?_
      simp only [decide_eq_true_eq] at hd ⊢
      exact ⟨hd.1, by linarith⟩
    omega
  · have hsame : s'.allowedIn c.rawKey t = s.allowedIn c.rawKey t := by
      simp [LimiterTrace.allowedIn, hallowed, hin]
    rw [hsame]
    exact hcapped t

lemma counted_of_inForce {K : Set String} {b : KeyBucket} (hbounded : Bounded fingerprint K cap s)
    (hapart : s.StartsApart fingerprint c) (hc : c.rawKey ∈ K) (hkey : c.rawKey ≠ "")
    (hforce : InForce s.limiter (fingerprint c.rawKey) c.now b) :
    (allowedAfter s c.rawKey (b.windowStart - minute) : Int) ≤ b.count := by
  rcases hforce with hopen | ⟨hnone, rfl⟩
  · exact hbounded.counted _ hc hkey b (openBucket_eq_some.mp hopen).1
  · have hzero : allowedAfter s c.rawKey (c.now - minute) = 0 := by
      refine List.countP_eq_zero.mpr fun d hd => ?_
      simp only [decide_eq_true_eq, not_and]
      intro hsame
      have := hapart hkey hnone d hd hsame
      linarith
    simp [hzero]

lemma windowStart_le_of_inForce {b : KeyBucket}
    (hstarted : ∀ fp b, s.limiter.buckets.lookup fp = some b → b.windowStart ≤ s.clock)
    (hclock : s.clock ≤ c.now) (hforce : InForce s.limiter (fingerprint c.rawKey) c.now b) :
    b.windowStart ≤ c.now := by
  rcases hforce with hopen | ⟨-, rfl⟩
  · exact Int.le_trans (hstarted _ b (openBucket_eq_some.mp hopen).1) hclock
  · exact Int.le_refl _

lemma allowedAfter_cons_of_ne {key : String} (hne : c.rawKey ≠ key) (t : Time)
    (hallowed : s'.allowed = c :: s.allowed) : allowedAfter s' key t = allowedAfter s key t := by
  simp [allowedAfter, hallowed, hne]

lemma allowedIn_cons_of_ne {key : String} (hne : c.rawKey ≠ key) (t : Time)
    (hallowed : s'.allowed = c :: s.allowed) : s'.allowedIn key t = s.allowedIn key t := by
  simp [LimiterTrace.allowedIn, hallowed, hne]

lemma allowedAfter_cons_le (key : String) (t : Time) (hallowed : s'.allowed = c :: s.allowed) :
    allowedAfter s' key t ≤ allowedAfter s key t + 1 := by
  unfold allowedAfter
  rw [hallowed, List.countP_cons]
  split <;> omega

lemma bounded_call {K : Set String} (hK : Set.InjOn fingerprint K) (hbounded : Bounded fingerprint K cap s)
    (hapart : s.StartsApart fingerprint c) (hc : c.rawKey ∈ K) (h : s.call fingerprint c = some s') :
    Bounded fingerprint K cap s' := by
  obtain ⟨hclock, hclock', ⟨hempty, hlimiter, hallowed⟩ | ⟨hkey, r, b, allowed, hshrunk, hforce, hroom,
    hlimiter, hallowed⟩⟩ := call_cases h
  · -- a call without a key counts for no other key
    have hne : ∀ {key : String}, key ≠ "" → c.rawKey ≠ key := fun hkey hck => hkey (hck ▸ hempty)
    refine ⟨hlimiter ▸ hbounded.limit, hlimiter ▸ hbounded.window, ?_, ?_, ?_, ?_⟩
    · rw [hallowed]
      exact List.forall_mem_cons.mpr ⟨hc, hbounded.keys⟩
    · rw [hlimiter, hclock']
      exact fun fp b hb => Int.le_trans (hbounded.started fp b hb) hclock
    · intro key hmem hkey b hb
      rw [allowedAfter_cons_of_ne (hne hkey) _ hallowed]
      exact hbounded.counted key hmem hkey b (hlimiter ▸ hb)
    · intro key hkey t
      rw [allowedIn_cons_of_ne (hne hkey) _ hallowed]
      exact hbounded.capped key hkey t
  · have hcounted := counted_of_inForce hbounded hapart hc hkey hforce
    have hstart := windowStart_le_of_inForce hbounded.started hclock hforce
    have hlookup : ∀ {fp b'}, s'.limiter.buckets.lookup fp = some b' →
        fp = fingerprint c.rawKey ∧ b' = left b allowed ∨
          fp ≠ fingerprint c.rawKey ∧ s.limiter.buckets.lookup fp = some b' := by
      intro fp b' hb'
      rw [hlimiter] at hb'
      by_cases hfp : fp = fingerprint c.rawKey
      · rw [hfp, AList.lookup_insert] at hb'
        exact .inl ⟨hfp, (Option.some.inj hb').symm⟩
      · rw [AList.lookup_insert_ne hfp] at hb'
        exact .inr ⟨hfp, hshrunk.lookup fp b' hb'⟩
    have hstarted : ∀ fp b', s'.limiter.buckets.lookup fp = some b' → b'.windowStart ≤ s'.clock := by
      intro fp b' hb'
      rw [hclock']
      obtain ⟨-, rfl⟩ | ⟨-, hb⟩ := hlookup hb'
      · rwa [left_windowStart]
      · exact Int.le_trans (hbounded.started fp b' hb) hclock
    cases allowed with
    | false =>
      -- nothing is counted and nothing allowed
      refine ⟨hlimiter ▸ hshrunk.cap.trans hbounded.limit, hlimiter ▸ hshrunk.window.trans hbounded.window,
        ?_, hstarted, ?_, ?_⟩
      · exact hallowed ▸ hbounded.keys
      · intro key hmem hne b' hb'
        unfold allowedAfter
        rw [hallowed]
        obtain ⟨hfp, rfl⟩ | ⟨-, hb⟩ := hlookup hb'
        · rw [hK hmem hc hfp]
          exact hcounted
        · exact hbounded.counted key hmem hne b' hb
      · intro key hne t
        unfold LimiterTrace.allowedIn
        rw [hallowed]
        exact hbounded.capped key hne t
    | true =>
      refine ⟨hlimiter ▸ hshrunk.cap.trans hbounded.limit, hlimiter ▸ hshrunk.window.trans hbounded.window,
        ?_, hstarted, ?_, ?_⟩
      · rw [hallowed]
        exact List.forall_mem_cons.mpr ⟨hc, hbounded.keys⟩
      · intro key hmem hne b' hb'
        obtain ⟨hfp, rfl⟩ | ⟨hfp, hb⟩ := hlookup hb'
        · rw [hK hmem hc hfp]
          have hle := allowedAfter_cons_le c.rawKey (b.windowStart - minute) hallowed
          change (allowedAfter s' c.rawKey (b.windowStart - minute) : Int) ≤ b.count + 1
          omega
        · rw [allowedAfter_cons_of_ne (fun hck => hfp (hck ▸ rfl)) _ hallowed]
          exact hbounded.counted key hmem hne b' hb
      · intro key hne t
        by_cases hck : c.rawKey = key
        · subst hck
          exact allowedIn_le_of_counted hstart hcounted (hbounded.limit ▸ hroom.mp rfl)
            (hbounded.capped _ hne) hallowed t
        · rw [allowedIn_cons_of_ne hck _ hallowed]
          exact hbounded.capped key hne t

/-! ### A window that starts too soon -/

structure Repeated (fingerprint : String → String) (s : LimiterTrace) (c : LimiterCall) (n : Nat)
    (s' : LimiterTrace) : Prop where
  limit : s'.limiter.cap = s.limiter.cap
  window : s'.limiter.window = minute
  clock : s'.clock = c.now
  bucket : s'.limiter.buckets.lookup (fingerprint c.rawKey) = some ⟨c.now, n⟩
  allowed : s'.allowed = List.replicate n c ++ s.allowed

lemma repeated_one (hkey : c.rawKey ≠ "") (hcap : 0 < s.limiter.cap) (hwindow : s.limiter.window = minute)
    (hnone : s.limiter.openBucket (fingerprint c.rawKey) c.now = none) (h : s.call fingerprint c = some s') :
    Repeated fingerprint s c 1 s' := by
  obtain ⟨-, hclock', ⟨hempty, -⟩ | ⟨-, r, b, allowed, hshrunk, hforce, hroom, hlimiter, hallowed⟩⟩ :=
    call_cases h
  · exact absurd hempty hkey
  · obtain hopen | ⟨-, rfl⟩ := hforce
    · rw [hnone] at hopen
      cases hopen
    · obtain rfl := hroom.mpr hcap
      refine ⟨hlimiter ▸ hshrunk.cap, hlimiter ▸ hshrunk.window.trans hwindow, hclock', ?_, hallowed⟩
      rw [hlimiter, AList.lookup_insert]
      rfl

lemma repeated_succ {n : Nat} {s'' : LimiterTrace} (hkey : c.rawKey ≠ "") (hn : (n : Int) < s.limiter.cap)
    (hs : Repeated fingerprint s c n s') (h : s'.call fingerprint c = some s'') :
    Repeated fingerprint s c (n + 1) s'' := by
  have hopen : s'.limiter.openBucket (fingerprint c.rawKey) c.now = some ⟨c.now, n⟩ := by
    refine openBucket_eq_some.mpr ⟨hs.bucket, ?_⟩
    rw [hs.window, Int.sub_self]
    decide
  obtain ⟨-, hclock', ⟨hempty, -⟩ | ⟨-, r, b, allowed, hshrunk, hforce, hroom, hlimiter, hallowed⟩⟩ :=
    call_cases h
  · exact absurd hempty hkey
  · obtain hb | ⟨hnone, -⟩ := hforce
    · obtain rfl := Option.some.inj (hopen.symm.trans hb)
      obtain rfl := hroom.mpr (hs.limit ▸ hn)
      refine ⟨hlimiter ▸ hshrunk.cap.trans hs.limit, hlimiter ▸ hshrunk.window.trans hs.window, hclock', ?_, ?_⟩
      · rw [hlimiter, AList.lookup_insert]
        rfl
      · rw [hallowed, hs.allowed]
        rfl
    · rw [hopen] at hnone
      cases hnone

lemma exists_repeated (hkey : c.rawKey ≠ "") (hwindow : s.limiter.window = minute) (hclock : s.clock ≤ c.now)
    (hnone : s.limiter.openBucket (fingerprint c.rawKey) c.now = none) (n : Nat)
    (hn : ((n + 1 : Nat) : Int) ≤ s.limiter.cap) :
    ∃ s', run (LimiterTrace.call fingerprint) s (List.replicate (n + 1) c) = some s' ∧
      Repeated fingerprint s c (n + 1) s' := by
  induction n with
  | zero =>
    have hcall : ∃ s', s.call fingerprint c = some s' := ⟨_, if_neg (Int.not_lt.mpr hclock)⟩
    obtain ⟨s', hs'⟩ := hcall
    exact ⟨s', by simp [run, hs'], repeated_one hkey (by omega) hwindow hnone hs'⟩
  | succ n ih =>
    obtain ⟨s', hrun, hs'⟩ := ih (by omega)
    have hcall : ∃ s'', s'.call fingerprint c = some s'' :=
      ⟨_, if_neg (by rw [hs'.clock]; exact Int.lt_irrefl _)⟩
    obtain ⟨s'', hs''⟩ := hcall
    refine ⟨s'', ?_, repeated_succ hkey (by omega) hs' hs''⟩
    rw [List.replicate_succ']
    exact run_append_of hrun (by simp [run, hs''])

lemma past_call (hpast : ∀ d ∈ s.allowed, d.now ≤ s.clock) (h : s.call fingerprint c = some s') :
    ∀ d ∈ s'.allowed, d.now ≤ s'.clock := by
  obtain ⟨hclock, hclock', hcases⟩ := call_cases h
  have hold : ∀ d ∈ s.allowed, d.now ≤ s'.clock := by
    intro d hd
    rw [hclock']
    exact Int.le_trans (hpast d hd) hclock
  have hnew : ∀ d ∈ c :: s.allowed, d.now ≤ s'.clock :=
    List.forall_mem_cons.mpr ⟨hclock' ▸ Int.le_refl _, hold⟩
  obtain ⟨-, -, hallowed⟩ | ⟨-, -, -, allowed, -, -, -, -, hallowed⟩ := hcases
  · rwa [hallowed]
  · rw [hallowed]
    cases allowed with
    | false => exact hold
    | true => exact hnew

lemma constants_call (hwindow : s.limiter.cap = cap ∧ s.limiter.window = minute)
    (h : s.call fingerprint c = some s') : s'.limiter.cap = cap ∧ s'.limiter.window = minute := by
  obtain ⟨-, -, ⟨-, hlimiter, -⟩ | ⟨-, r, b, allowed, hshrunk, -, -, hlimiter, -⟩⟩ := call_cases h
  · rwa [hlimiter]
  · rw [hlimiter]
    exact ⟨hshrunk.cap.trans hwindow.1, hshrunk.window.trans hwindow.2⟩

end RateLimit

open RateLimit

def limiterStart (cap : Int) (start : Time) : LimiterTrace := { limiter := newKeyRateLimiter cap, clock := start }

/-- The sliding window, for the runs in which no window starts too soon after an allowed call of its
key. -/
theorem rate_limit_capped (fingerprint : String → String) (cap : Int) (hcap : 0 < cap) (start : Time)
    (calls : List LimiterCall) (s : LimiterTrace)
    (hfp : Set.InjOn fingerprint {key | ∃ c ∈ calls, c.rawKey = key})
    (hrun : run (LimiterTrace.call fingerprint) (limiterStart cap start) calls = some s)
    (hapart : Along (LimiterTrace.call fingerprint) (LimiterTrace.StartsApart fingerprint)
      (limiterStart cap start) calls) : s.Capped cap := by
  have hok : Along (LimiterTrace.call fingerprint)
      (fun s c => s.StartsApart fingerprint c ∧ ∃ d ∈ calls, d.rawKey = c.rawKey)
      (limiterStart cap start) calls :=
    hapart.and (along_of_forall fun c hc => ⟨c, hc, rfl⟩)
  have hinit : Bounded fingerprint {key | ∃ c ∈ calls, c.rawKey = key} cap (limiterStart cap start) := by
    refine ⟨if_neg (Int.not_le.mpr hcap), rfl, fun _ hd => (List.not_mem_nil hd).elim, ?_, ?_, ?_⟩
    · intro fp b hb
      cases hb
    · intro key _ _ b hb
      cases hb
    · intro key _ t
      exact hcap.le
  exact (run_invariant_along (fun _ _ _ hs hc hcall => bounded_call hfp hs hc.1 hc.2 hcall) hinit hok hrun).capped

def requestAt (key : String) (seconds : Int) : LimiterCall := { rawKey := key, now := seconds * 1000000000 }

theorem rate_limit_capped_apart :
    ∃ s, run (LimiterTrace.call id) (limiterStart 1 0) [requestAt "a" 0, requestAt "b" 30, requestAt "a" 60] =
      some s ∧ s.allowed.length = 3 ∧ s.Capped 1 := by
  obtain ⟨s, hrun, hlength⟩ : ∃ s, run (LimiterTrace.call id) (limiterStart 1 0)
      [requestAt "a" 0, requestAt "b" 30, requestAt "a" 60] = some s ∧ s.allowed.length = 3 := ⟨_, rfl, rfl⟩
  refine ⟨s, hrun, hlength, rate_limit_capped id 1 (by decide) 0 _ s ?_ hrun (by decide)⟩
  exact Function.injective_id.injOn

/-- With a cap of two, three requests within two seconds: the second one comes at the end of the first
window, and the others start the next one. -/
theorem rate_limit_exceeded :
    Function.Injective (id : String → String) ∧
      ∃ s, run (LimiterTrace.call id) (limiterStart 2 0)
        [requestAt "a" 0, requestAt "a" 59, requestAt "a" 60, requestAt "a" 61] = some s ∧
        s.allowedIn "a" (59 * 1000000000) = 3 ∧ ¬s.Capped 2 := by
  refine ⟨Function.injective_id, _, rfl, rfl, fun hcapped => ?_⟩
  exact absurd (hcapped "a" (by decide) (59 * 1000000000)) (by decide)

theorem not_capped_of_not_startsApart (fingerprint : String → String) (cap : Int) (hcap : 0 < cap)
    (start : Time) (calls : List LimiterCall) (s : LimiterTrace)
    (hrun : run (LimiterTrace.call fingerprint) (limiterStart cap start) calls = some s) (c : LimiterCall)
    (hclock : s.clock ≤ c.now) (hnot : ¬s.StartsApart fingerprint c) :
    ∃ n s', run (LimiterTrace.call fingerprint) s (List.replicate n c) = some s' ∧ ¬s'.Capped cap := by
  have hpast : ∀ d ∈ s.allowed, d.now ≤ s.clock :=
    run_invariant (I := fun s => ∀ d ∈ s.allowed, d.now ≤ s.clock) (fun _ _ _ hs h => past_call hs h)
      (fun _ hd => (List.not_mem_nil hd).elim) hrun
  obtain ⟨hlimit, hwindow⟩ : s.limiter.cap = cap ∧ s.limiter.window = minute :=
    run_invariant (I := fun s => s.limiter.cap = cap ∧ s.limiter.window = minute)
      (fun _ _ _ hs h => constants_call hs h) ⟨if_neg (Int.not_le.mpr hcap), rfl⟩ hrun
  simp only [LimiterTrace.StartsApart, not_forall, exists_prop] at hnot
  obtain ⟨hkey, hnone, d, hd, hsame, hnear⟩ := hnot
  obtain ⟨n, rfl⟩ : ∃ n : Nat, cap = (n + 1 : Nat) := ⟨(cap - 1).toNat, by omega⟩
  obtain ⟨s', hrun', hs'⟩ := exists_repeated hkey hwindow hclock hnone n (by omega)
  refine ⟨n + 1, s', hrun', fun hcapped => ?_⟩
  have hdnow : d.now ≤ c.now := Int.le_trans (hpast d hd) hclock
  have hcnow : c.now < d.now + minute := Int.not_le.mp hnear
  have hzero : (0 : Int) < minute := by decide
  have hone : 1 ≤ s.allowed.countP fun e => e.rawKey = c.rawKey ∧ d.now ≤ e.now ∧ e.now < d.now + minute := by
    refine List.countP_pos_iff.mpr ⟨d, hd, ?_⟩
    simpa [hsame] using hzero
  have hle := hcapped c.rawKey hkey d.now
  unfold LimiterTrace.allowedIn at hle
  rw [hs'.allowed, List.countP_append, List.countP_replicate, if_pos (by simp [hdnow, hcnow])] at hle
  omega

theorem not_capped_of_not_startsApart_late :
    ∃ s n s', run (LimiterTrace.call id) (limiterStart 2 0) [requestAt "a" 0, requestAt "a" 59] = some s ∧
      run (LimiterTrace.call id) s (List.replicate n (requestAt "a" 60)) = some s' ∧ ¬s'.Capped 2 := by
  obtain ⟨s, hrun, hclock, hnot⟩ : ∃ s, run (LimiterTrace.call id) (limiterStart 2 0)
      [requestAt "a" 0, requestAt "a" 59] = some s ∧ s.clock ≤ (requestAt "a" 60).now ∧
        ¬s.StartsApart id (requestAt "a" 60) := ⟨_, rfl, by decide, by decide⟩
  exact ⟨s, (not_capped_of_not_startsApart id 2 (by decide) 0 _ s hrun _ hclock hnot).imp fun n ⟨s', h⟩ =>
    ⟨s', hrun, h⟩⟩

end MailBaby.Proofs
