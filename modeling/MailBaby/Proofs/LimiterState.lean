import MailBaby.Proofs.RateLimit

/-!
# The state of the rate limiter

The map of the buckets stays within its bound, since a full map gives up a bucket before it takes another
one.
-/

namespace MailBaby.Proofs

open Lib MailBaby.Handler

namespace RateLimit

/-! ### The number of buckets -/

section Size

variable {r : KeyRateLimiter} {fp : String}

lemma older_mem {entries : List (Σ _ : String, KeyBucket)} {oldest : Option (Σ _ : String, KeyBucket)}
    {e : Σ _ : String, KeyBucket} (h : entries.foldl KeyRateLimiter.older oldest = some e) :
    e ∈ entries ∨ oldest = some e := by
  induction entries generalizing oldest with
  | nil => exact .inr h
  | cons first entries ih =>
    obtain hmem | hfirst := ih h
    · exact .inl (List.mem_cons_of_mem _ hmem)
    · cases oldest with
      | none => exact .inl (List.mem_cons.mpr (.inl (Option.some.inj hfirst).symm))
      | some o =>
        unfold KeyRateLimiter.older at hfirst
        dsimp only at hfirst
        split at hfirst
        · exact .inl (List.mem_cons.mpr (.inl (Option.some.inj hfirst).symm))
        · exact .inr hfirst

lemma foldl_older_ne_none {entries : List (Σ _ : String, KeyBucket)} {o : Σ _ : String, KeyBucket} :
    entries.foldl KeyRateLimiter.older (some o) ≠ none := by
  induction entries generalizing o with
  | nil => exact Option.some_ne_none o
  | cons first entries ih =>
    rw [List.foldl_cons]
    unfold KeyRateLimiter.older
    dsimp only
    split
    · exact ih
    · exact ih

/-- The map is within its bound, and no key is empty. -/
structure Stored (r : KeyRateLimiter) : Prop where
  positive : 0 < r.maxKeys
  size : r.buckets.keys.length ≤ r.maxKeys
  named : "" ∉ r.buckets.keys

lemma length_keys (m : AList fun _ : String => KeyBucket) : m.keys.length = m.entries.length :=
  List.length_map _

lemma length_evictOldestLocked (order : RangeOrder (Σ _ : String, KeyBucket)) (now : Time) (hr : Stored r)
    (hfull : r.maxKeys ≤ r.buckets.entries.length) :
    (r.evictOldestLocked order now).buckets.keys.length < r.maxKeys := by
  have hpos := hr.positive
  have hsize := hr.size
  have hlength := (order.perm r.buckets.entries).length_eq
  unfold KeyRateLimiter.evictOldestLocked
  cases hfold : (order.arrange r.buckets.entries).foldl KeyRateLimiter.older none with
  | none =>
    cases hentries : order.arrange r.buckets.entries with
    | nil =>
      rw [hentries, List.length_nil] at hlength
      omega
    | cons first entries =>
      rw [hentries] at hfold
      exact absurd hfold foldl_older_ne_none
  | some oldest =>
    have hmem : oldest ∈ r.buckets.entries := by
      obtain hmem | hnone := older_mem hfold
      · exact order.mem_arrange.mp hmem
      · cases hnone
    have hkey : oldest.1 ∈ r.buckets.keys := List.mem_map_of_mem hmem
    have hne : oldest.1 ≠ "" := fun hempty => hr.named (hempty ▸ hkey)
    dsimp only
    rw [if_pos ⟨hne, .inr hfull⟩, AList.keys_erase, List.length_erase_of_mem hkey]
    omega

lemma maxKeys_evictOldestLocked (order : RangeOrder (Σ _ : String, KeyBucket)) (now : Time) :
    (r.evictOldestLocked order now).maxKeys = r.maxKeys := by
  unfold KeyRateLimiter.evictOldestLocked
  split
  · rfl
  · split <;> rfl

lemma stored_makeRoom (order : RangeOrder (Σ _ : String, KeyBucket)) (fp : String) (now : Time) (hr : Stored r) :
    Stored (r.makeRoom order fp now) ∧
      (fp ∈ (r.makeRoom order fp now).buckets.keys ∨
        (r.makeRoom order fp now).buckets.keys.length < (r.makeRoom order fp now).maxKeys) := by
  have hnamed : "" ∉ (r.makeRoom order fp now).buckets.keys := by
    intro hmem
    obtain ⟨b, hb⟩ := Option.isSome_iff_exists.mp (AList.lookup_isSome.mpr (AList.mem_keys.mpr hmem))
    have hold := (shrunk_makeRoom order).lookup "" b hb
    exact hr.named (AList.mem_keys.mp (AList.lookup_isSome.mp (Option.isSome_iff_exists.mpr ⟨b, hold⟩)))
  unfold KeyRateLimiter.makeRoom at hnamed ⊢
  split at hnamed <;> rename_i hroom
  · have hlt := length_evictOldestLocked order now hr hroom.2
    rw [if_pos hroom, maxKeys_evictOldestLocked]
    refine ⟨⟨?_, ?_, hnamed⟩, .inr hlt⟩
    · rw [maxKeys_evictOldestLocked]
      exact hr.positive
    · rw [maxKeys_evictOldestLocked]
      exact hlt.le
  · rw [if_neg hroom]
    refine ⟨hr, ?_⟩
    by_cases hfp : r.buckets.lookup fp = none
    · rw [length_keys]
      exact .inr (Nat.lt_of_not_le fun hfull => hroom ⟨hfp, hfull⟩)
    · exact .inl (AList.mem_keys.mp (not_not.mp fun hnot => hfp (AList.lookup_eq_none.mpr hnot)))

lemma stored_takeFrom (now : Time) (hr : Stored r) (hfp : fp ≠ "")
    (hroom : fp ∈ r.buckets.keys ∨ r.buckets.keys.length < r.maxKeys) (b : KeyBucket) :
    Stored (r.takeFrom fp now b).2 := by
  rw [(takeFrom_eq r fp now b).1]
  refine ⟨hr.positive, ?_, ?_⟩
  · dsimp only
    rw [AList.keys_insert, List.length_cons]
    have hsize := hr.size
    obtain hmem | hlt := hroom
    · have hpos := List.length_pos_of_mem hmem
      rw [List.length_erase_of_mem hmem]
      omega
    · have hle := (List.erase_sublist (a := fp) (l := r.buckets.keys)).length_le
      omega
  · rw [AList.keys_insert, List.mem_cons]
    rintro (hempty | hmem)
    · exact hfp hempty.symm
    · exact hr.named (List.mem_of_mem_erase hmem)

lemma stored_allow (order : RangeOrder (Σ _ : String, KeyBucket)) (now : Time) (hr : Stored r)
    {fingerprint : String → String} (hfp : ∀ raw, fingerprint raw ≠ "") (rawKey : String) : Stored (r.allow fingerprint order now rawKey).2 := by
  unfold KeyRateLimiter.allow
  split
  · exact hr
  · dsimp only
    cases hopen : r.openBucket (fingerprint rawKey) now with
    | some b =>
      have hmem : fingerprint rawKey ∈ r.buckets.keys :=
        AList.mem_keys.mp (AList.lookup_isSome.mp
          (Option.isSome_iff_exists.mpr ⟨b, (openBucket_eq_some.mp hopen).1⟩))
      exact stored_takeFrom now hr (hfp rawKey) (.inl hmem) b
    | none =>
      obtain ⟨hstored, hroom⟩ := stored_makeRoom order (fingerprint rawKey) now hr
      exact stored_takeFrom now hstored (hfp rawKey) hroom ⟨now, 0⟩

end Size

/-! ### What the buckets stand for -/

variable {fingerprint : String → String} {s s' : LimiterTrace} {c : LimiterCall} {r : KeyRateLimiter}

/-- A bucket has counted calls that were allowed since its start, at least one and not too many. -/
structure Justified (fingerprint : String → String) (s : LimiterTrace) (fp : String) (b : KeyBucket) : Prop where
  started : b.windowStart ≤ s.clock
  nonempty : 1 ≤ b.count
  capped : b.count ≤ s.limiter.cap
  counted : b.count ≤ s.allowedSince fingerprint fp b.windowStart

/-- The invariant of all runs of a limiter that was made like `r`. -/
structure Kept (fingerprint : String → String) (r : KeyRateLimiter) (s : LimiterTrace) : Prop where
  limit : s.limiter.cap = r.cap
  window : s.limiter.window = r.window
  maxKeys : s.limiter.maxKeys = r.maxKeys
  stored : Stored s.limiter
  buckets : ∀ fp b, s.limiter.buckets.lookup fp = some b → Justified fingerprint s fp b

lemma allowedSince_mono (hallowed : s'.allowed = s.allowed ∨ s'.allowed = c :: s.allowed) (fp : String)
    (t : Time) : s.allowedSince fingerprint fp t ≤ s'.allowedSince fingerprint fp t := by
  unfold LimiterTrace.allowedSince
  obtain hsame | hcons := hallowed
  · rw [hsame]
  · rw [hcons]
    exact (List.sublist_cons_self c s.allowed).countP_le

lemma Justified.later {fp : String} {b : KeyBucket} (hb : Justified fingerprint s fp b)
    (hclock : s.clock ≤ s'.clock) (hlimit : s'.limiter.cap = s.limiter.cap)
    (hallowed : s'.allowed = s.allowed ∨ s'.allowed = c :: s.allowed) : Justified fingerprint s' fp b where
  started := Int.le_trans hb.started hclock
  nonempty := hb.nonempty
  capped := hlimit ▸ hb.capped
  counted := Int.le_trans hb.counted (Int.ofNat_le.mpr (allowedSince_mono hallowed fp b.windowStart))

lemma maxKeys_makeRoom {fp : String} {now : Time} (order : RangeOrder (Σ _ : String, KeyBucket)) :
    (r.makeRoom order fp now).maxKeys = r.maxKeys := by
  unfold KeyRateLimiter.makeRoom
  split
  · exact maxKeys_evictOldestLocked order now
  · rfl

lemma maxKeys_allow {now : Time} (order : RangeOrder (Σ _ : String, KeyBucket)) (rawKey : String) :
    (r.allow fingerprint order now rawKey).2.maxKeys = r.maxKeys := by
  unfold KeyRateLimiter.allow
  split
  · rfl
  · dsimp only
    cases r.openBucket (fingerprint rawKey) now with
    | some b =>
      dsimp only
      rw [(takeFrom_eq _ _ _ _).1]
    | none =>
      dsimp only
      rw [(takeFrom_eq _ _ _ _).1]
      exact maxKeys_makeRoom order

lemma call_limiter (h : s.call fingerprint c = some s') :
    s'.limiter = (s.limiter.allow fingerprint c.order c.now c.rawKey).2 := by
  unfold LimiterTrace.call at h
  split at h
  · cases h
  · obtain rfl := Option.some.inj h
    rfl

lemma justified_left {b : KeyBucket} {allowed : Bool} (hcap : 0 < s.limiter.cap) (hkey : c.rawKey ≠ "")
    (hbuckets : ∀ fp b, s.limiter.buckets.lookup fp = some b → Justified fingerprint s fp b)
    (hclock : s.clock ≤ c.now) (hclock' : s'.clock = c.now) (hlimit : s'.limiter.cap = s.limiter.cap)
    (hforce : InForce s.limiter (fingerprint c.rawKey) c.now b) (hroom : allowed = true ↔ b.count < s.limiter.cap)
    (hallowed : s'.allowed = if allowed then c :: s.allowed else s.allowed) :
    Justified fingerprint s' (fingerprint c.rawKey) (left b allowed) := by
  have hstart : b.windowStart ≤ c.now :=
    windowStart_le_of_inForce (fun fp b hb => (hbuckets fp b hb).started) hclock hforce
  have hcount : 0 ≤ b.count ∧ b.count ≤ s.allowedSince fingerprint (fingerprint c.rawKey) b.windowStart := by
    obtain hopen | ⟨-, rfl⟩ := hforce
    · have hb := hbuckets _ b (openBucket_eq_some.mp hopen).1
      exact ⟨Int.le_trans (by decide) hb.nonempty, hb.counted⟩
    · exact ⟨Int.le_refl 0, Int.natCast_nonneg _⟩
  cases allowed with
  | true =>
    have hlt := hroom.mp rfl
    have hcons : s'.allowedSince fingerprint (fingerprint c.rawKey) b.windowStart =
        s.allowedSince fingerprint (fingerprint c.rawKey) b.windowStart + 1 := by
      simp [LimiterTrace.allowedSince, hallowed, hkey, hstart]
    refine ⟨hclock' ▸ hstart, ?_, ?_, ?_⟩
    · change 1 ≤ b.count + 1
      omega
    · change b.count + 1 ≤ s'.limiter.cap
      omega
    · change b.count + 1 ≤ ((s'.allowedSince fingerprint (fingerprint c.rawKey) b.windowStart : Nat) : Int)
      omega
  | false =>
    -- a denied call leaves a full bucket, which cannot be a new one
    have hfull : ¬b.count < s.limiter.cap := fun hlt => Bool.false_ne_true (hroom.mpr hlt)
    obtain hopen | ⟨-, rfl⟩ := hforce
    · have hb := hbuckets _ b (openBucket_eq_some.mp hopen).1
      exact hb.later (c := c) (hclock' ▸ hclock) hlimit (.inl hallowed)
    · exact absurd hcap hfull

lemma kept_call (hfp : ∀ raw, fingerprint raw ≠ "") (hcap : 0 < r.cap) (hs : Kept fingerprint r s)
    (h : s.call fingerprint c = some s') : Kept fingerprint r s' := by
  have hstored : Stored s'.limiter := by
    rw [call_limiter h]
    exact stored_allow c.order c.now hs.stored hfp c.rawKey
  have hmax : s'.limiter.maxKeys = r.maxKeys := by
    rw [call_limiter h, maxKeys_allow]
    exact hs.maxKeys
  obtain ⟨hclock, hclock', ⟨-, hlimiter, hallowed⟩ | ⟨hkey, r', b, allowed, hshrunk, hforce, hroom,
    hlimiter, hallowed⟩⟩ := call_cases h
  · refine ⟨hlimiter ▸ hs.limit, hlimiter ▸ hs.window, hmax, hstored, fun fp b hb => ?_⟩
    rw [hlimiter] at hb
    exact (hs.buckets fp b hb).later (hclock' ▸ hclock) (hlimiter ▸ rfl) (.inr hallowed)
  · have hlimit : s'.limiter.cap = s.limiter.cap := hlimiter ▸ hshrunk.cap
    refine ⟨hlimit.trans hs.limit, ?_, hmax, hstored, fun fp b' hb' => ?_⟩
    · rw [hlimiter]
      exact hshrunk.window.trans hs.window
    · rw [hlimiter] at hb'
      by_cases hsame : fp = fingerprint c.rawKey
      · rw [hsame, AList.lookup_insert] at hb'
        obtain rfl := Option.some.inj hb'
        rw [hsame]
        exact justified_left (hs.limit ▸ hcap) hkey hs.buckets hclock hclock' hlimit hforce hroom hallowed
      · rw [AList.lookup_insert_ne hsame] at hb'
        refine (hs.buckets fp b' (hshrunk.lookup fp b' hb')).later (c := c) (hclock' ▸ hclock) hlimit ?_
        cases allowed with
        | true => exact .inr hallowed
        | false => exact .inl hallowed

lemma fingerprint_ne_empty (sha256 : Bytes → Vector UInt8 32) (raw : String) :
    Handler.fingerprint sha256 raw ≠ "" := by
  intro hempty
  have hlist : Hex.encode (sha256 (utf8 raw.toList)).toList = [] := by
    have h := congrArg String.toList hempty
    rwa [Handler.fingerprint, String.toList_ofList] at h
  have hlength := Hex.length_encode (sha256 (utf8 raw.toList)).toList
  rw [hlist, Vector.length_toList] at hlength
  cases hlength

lemma denied_iff (hcap : 0 < r.cap) (order : RangeOrder (Σ _ : String, KeyBucket)) (now : Time)
    (rawKey : String) (retryAfter : Duration) :
    (r.allow fingerprint order now rawKey).1 = (false, retryAfter) ↔
      rawKey ≠ "" ∧ ∃ b, r.openBucket (fingerprint rawKey) now = some b ∧ r.cap ≤ b.count ∧
        retryAfter = b.windowStart + r.window - now := by
  unfold KeyRateLimiter.allow
  split <;> rename_i hkey
  · simp [hkey]
  · dsimp only
    cases hopen : r.openBucket (fingerprint rawKey) now with
    | some b =>
      dsimp only [KeyRateLimiter.takeFrom]
      split <;> rename_i hcount
      · constructor
        · intro h
          exact ⟨hkey, b, rfl, hcount, (congrArg Prod.snd h).symm⟩
        · rintro ⟨-, b', hb', -, rfl⟩
          obtain rfl := Option.some.inj hb'
          rfl
      · constructor
        · intro h
          cases congrArg Prod.fst h
        · rintro ⟨-, b', hb', hfull, -⟩
          obtain rfl := Option.some.inj hb'
          exact absurd hfull hcount
    | none =>
      -- a new bucket has room
      have hroom : ¬(0 : Int) ≥ (r.makeRoom order (fingerprint rawKey) now).cap := by
        rw [(shrunk_makeRoom order).cap]
        exact Int.not_le.mpr hcap
      dsimp only [KeyRateLimiter.takeFrom]
      rw [if_neg hroom]
      constructor
      · intro h
        cases congrArg Prod.fst h
      · rintro ⟨-, b', hb', -⟩
        cases hb'

lemma cap_newKeyRateLimiter (perMinute : Int) : 0 < (newKeyRateLimiter perMinute).cap := by
  change 0 < if perMinute ≤ 0 then (600 : Int) else perMinute
  split
  · decide
  · omega

lemma kept_start (fingerprint : String → String) (perMinute : Int) (start : Time) :
    Kept fingerprint (newKeyRateLimiter perMinute) { limiter := newKeyRateLimiter perMinute, clock := start } where
  limit := rfl
  window := rfl
  maxKeys := rfl
  stored := ⟨Nat.zero_lt_succ 9999, Nat.zero_le _, List.not_mem_nil⟩
  buckets := by
    intro fp b hb
    cases hb

lemma kept_run (sha256 : Bytes → Vector UInt8 32) {perMinute : Int} {start : Time} {calls : List LimiterCall}
    (hrun : run (LimiterTrace.call (Handler.fingerprint sha256))
      { limiter := newKeyRateLimiter perMinute, clock := start } calls = some s) :
    Kept (Handler.fingerprint sha256) (newKeyRateLimiter perMinute) s :=
  run_invariant (I := Kept (Handler.fingerprint sha256) (newKeyRateLimiter perMinute))
    (fun _ _ _ hs h => kept_call (fingerprint_ne_empty sha256) (cap_newKeyRateLimiter perMinute) hs h)
    (kept_start _ perMinute start) hrun

end RateLimit

open RateLimit

/-- The buckets stay within their bounds, and every denial has its calls. -/
theorem limiter_justified (sha256 : Bytes → Vector UInt8 32) (perMinute : Int) (start : Time)
    (calls : List LimiterCall) (s : LimiterTrace)
    (hrun : run (LimiterTrace.call (fingerprint sha256)) (limiterStart perMinute start) calls = some s) :
    s.limiter.buckets.entries.length ≤ (newKeyRateLimiter perMinute).maxKeys ∧
      (∀ fp b, s.limiter.buckets.lookup fp = some b →
        1 ≤ b.count ∧ b.count ≤ (newKeyRateLimiter perMinute).cap) ∧
      ∀ order now rawKey retryAfter, s.clock ≤ now →
        (s.limiter.allow (fingerprint sha256) order now rawKey).1 = (false, retryAfter) →
        ∃ b, s.limiter.buckets.lookup (fingerprint sha256 rawKey) = some b ∧
          (newKeyRateLimiter perMinute).cap ≤
            s.allowedSince (fingerprint sha256) (fingerprint sha256 rawKey) b.windowStart ∧
          now - b.windowStart < (newKeyRateLimiter perMinute).window ∧
          0 < retryAfter ∧ retryAfter ≤ (newKeyRateLimiter perMinute).window := by
  have hs : Kept (fingerprint sha256) (newKeyRateLimiter perMinute) s := kept_run sha256 hrun
  refine ⟨?_, ?_, ?_⟩
  · rw [← length_keys, ← hs.maxKeys]
    exact hs.stored.size
  · intro fp b hb
    have hjust := hs.buckets fp b hb
    exact ⟨hjust.nonempty, hs.limit ▸ hjust.capped⟩
  · intro order now rawKey retryAfter hclock hdenied
    have hcap : 0 < s.limiter.cap := hs.limit ▸ cap_newKeyRateLimiter perMinute
    obtain ⟨-, b, hopen, hfull, rfl⟩ := (denied_iff hcap order now rawKey retryAfter).mp hdenied
    obtain ⟨hlookup, hwindow⟩ := openBucket_eq_some.mp hopen
    have hjust := hs.buckets _ b hlookup
    have hstart : b.windowStart ≤ now := Int.le_trans hjust.started hclock
    rw [← hs.limit, ← hs.window]
    refine ⟨b, hlookup, Int.le_trans hfull hjust.counted, hwindow, ?_, ?_⟩
    · linarith
    · linarith

def sameDigest (_ : Bytes) : Vector UInt8 32 := Vector.replicate 32 7

theorem limiter_justified_denial :
    ∃ s, run (LimiterTrace.call (fingerprint sameDigest)) (limiterStart 1 0) [requestAt "a" 0] = some s ∧
      (s.limiter.allow (fingerprint sameDigest) .stored 59000000000 "b").1 = (false, 1000000000) ∧
      ∃ b, s.limiter.buckets.lookup (fingerprint sameDigest "b") = some b ∧
        1 ≤ s.allowedSince (fingerprint sameDigest) (fingerprint sameDigest "b") b.windowStart := by
  obtain ⟨s, hrun, hclock, hdenied⟩ : ∃ s, run (LimiterTrace.call (fingerprint sameDigest)) (limiterStart 1 0)
      [requestAt "a" 0] = some s ∧ s.clock ≤ 59000000000 ∧
      (s.limiter.allow (fingerprint sameDigest) .stored 59000000000 "b").1 = (false, 1000000000) :=
    ⟨_, rfl, by decide, by decide +kernel⟩
  obtain ⟨b, hlookup, hallowed, -⟩ :=
    (limiter_justified sameDigest 1 0 _ s hrun).2.2 .stored 59000000000 "b" 1000000000 hclock hdenied
  exact ⟨s, hrun, hdenied, b, hlookup, Int.ofNat_le.mp hallowed⟩

end MailBaby.Proofs
