import Mathlib.Data.List.GetD
import MailBaby.Driver.MemoryPublish

/-!
# Publishing does not isolate

The clone that a call places has a slice and a map of its own, so the caller cannot change it any more.
-/

namespace MailBaby.Proofs

open Lib MailBaby.Tracing MailBaby.MemoryPublish

namespace Isolation

/-! ### What is shared -/

section Sharing

variable {s t r : State} {o : Object}

structure Valid (s : State) : Prop where
  payload : s.msg.payload < s.heap.slices.length
  headers : ∀ a, s.msg.headers = some a → a < s.heap.maps.length

/-- From `s` on, only the slice and the map of the caller's message were written. -/
structure Extends (s t : State) : Prop where
  valid : Valid t
  payload : t.msg.payload = s.msg.payload
  headers : ∀ a, t.msg.headers = some a → s.msg.headers = some a ∨ s.heap.maps.length ≤ a
  slices_le : s.heap.slices.length ≤ t.heap.slices.length
  maps_le : s.heap.maps.length ≤ t.heap.maps.length
  slices : ∀ i, i < s.heap.slices.length → i ≠ s.msg.payload → t.heap.slices.getD i [] = s.heap.slices.getD i []
  maps : ∀ i, i < s.heap.maps.length → s.msg.headers ≠ some i → t.heap.maps.getD i ∅ = s.heap.maps.getD i ∅

lemma Extends.refl (hs : Valid s) : Extends s s :=
  ⟨hs, rfl, fun _ h => .inl h, le_rfl, le_rfl, fun _ _ _ => rfl, fun _ _ _ => rfl⟩

lemma Extends.trans (hst : Extends s t) (htr : Extends t r) : Extends s r where
  valid := htr.valid
  payload := htr.payload.trans hst.payload
  headers := by
    intro a ha
    obtain hsame | hnew := htr.headers a ha
    · exact hst.headers a hsame
    · exact .inr (hst.maps_le.trans hnew)
  slices_le := hst.slices_le.trans htr.slices_le
  maps_le := hst.maps_le.trans htr.maps_le
  slices := by
    intro i hi hne
    rw [htr.slices i (hi.trans_le hst.slices_le) (hst.payload ▸ hne)]
    exact hst.slices i hi hne
  maps := by
    intro i hi hne
    have hne' : t.msg.headers ≠ some i := by
      intro hsame
      obtain hold | hnew := hst.headers i hsame
      · exact hne hold
      · exact absurd hi (Nat.not_lt.mpr hnew)
    rw [htr.maps i (hi.trans_le hst.maps_le) hne']
    exact hst.maps i hi hne

/-- The object shares nothing with the message of the caller. -/
structure Apart (s : State) (o : Object) : Prop where
  payload : o.payload < s.heap.slices.length
  other : o.payload ≠ s.msg.payload
  headers : ∃ a, o.headers = some a ∧ a < s.heap.maps.length ∧ s.msg.headers ≠ some a

lemma Apart.extends (ho : Apart s o) (h : Extends s t) : Apart t o := by
  obtain ⟨a, ha, hlt, hne⟩ := ho.headers
  refine ⟨ho.payload.trans_le h.slices_le, h.payload ▸ ho.other, a, ha, hlt.trans_le h.maps_le, ?_⟩
  intro hsame
  obtain hold | hnew := h.headers a hsame
  · exact hne hold
  · exact absurd hlt (Nat.not_lt.mpr hnew)

lemma Apart.read_eq (ho : Apart s o) (h : Extends s t) : t.heap.read o = s.heap.read o := by
  obtain ⟨a, ha, hlt, hne⟩ := ho.headers
  unfold Heap.read
  rw [h.slices o.payload ho.payload ho.other, ha, Option.map_some, Option.map_some, h.maps a hlt hne]

/-! ### Each operation -/

lemma extends_makeHeaders (hs : Valid s) : Extends s s.makeHeaders := by
  unfold State.makeHeaders
  cases hheaders : s.msg.headers with
  | some a => exact Extends.refl hs
  | none =>
    refine ⟨⟨hs.payload, ?_⟩, rfl, ?_, le_rfl, ?_, fun _ _ _ => rfl, ?_⟩
    · intro a ha
      obtain rfl := Option.some.inj ha
      simp
    · intro a ha
      obtain rfl := Option.some.inj ha
      exact .inr le_rfl
    · simp
    · intro i hi _
      exact List.getD_append _ _ _ _ hi

lemma extends_writeHeaders (hs : Valid s) (f : Headers → Headers) : Extends s (s.writeHeaders f) := by
  unfold State.writeHeaders
  cases hheaders : s.msg.headers with
  | none => exact Extends.refl hs
  | some a =>
    refine ⟨⟨hs.payload, ?_⟩, rfl, fun _ h => .inl h, le_rfl, ?_, fun _ _ _ => rfl, ?_⟩
    · intro b hb
      simpa using hs.headers b hb
    · simp
    · intro i hi hne
      have hai : a ≠ i := fun h => hne (h ▸ hheaders)
      simp [List.getD_eq_getElem?_getD, List.getElem?_set_ne hai]

lemma extends_setHeader (hs : Valid s) (key value : String) : Extends s (s.setHeader key value) :=
  (extends_makeHeaders hs).trans (extends_writeHeaders (extends_makeHeaders hs).valid _)

lemma extends_setOptions (name : String) (hs : Valid s) (po : PublishOptions) : Extends s (s.setOptions name po) :=
  ⟨⟨hs.payload, hs.headers⟩, rfl, fun _ h => .inl h, le_rfl, le_rfl, fun _ _ _ => rfl, fun _ _ _ => rfl⟩

lemma extends_foldl_setHeader (hs : Valid s) (entries : List (Σ _ : String, String)) :
    Extends s (entries.foldl (fun s kv => s.setHeader kv.1 kv.2) s) := by
  induction entries generalizing s with
  | nil => exact Extends.refl hs
  | cons kv entries ih =>
    have hset := extends_setHeader hs kv.1 kv.2
    exact hset.trans (ih hset.valid)

lemma extends_injectHeaders (hs : Valid s) (ctx : Context) : Extends s (s.injectHeaders ctx) := by
  unfold State.injectHeaders
  have hmake := extends_makeHeaders hs
  cases spanFromContext ctx with
  | none => exact hmake
  | some span => exact hmake.trans (extends_writeHeaders hmake.valid _)

lemma extends_prepare (name : String) (hs : Valid s) (c : Call) : Extends s (s.prepare name c) := by
  have hoptions := extends_setOptions name hs (publishOptions c.opts)
  have hheaders := extends_foldl_setHeader hoptions.valid (publishOptions c.opts).headers.entries
  have hinject := extends_injectHeaders hheaders.valid c.ctx
  exact (hoptions.trans hheaders).trans hinject

lemma extends_clone (hs : Valid s) : Extends s s.clone.1 := by
  refine ⟨⟨?_, ?_⟩, rfl, fun _ h => .inl h, ?_, ?_, ?_, ?_⟩
  · simp only [State.clone, List.length_append]
    exact Nat.lt_add_right _ hs.payload
  · intro a ha
    simp only [State.clone, List.length_append]
    exact Nat.lt_add_right _ (hs.headers a ha)
  · simp [State.clone]
  · simp [State.clone]
  · intro i hi _
    exact List.getD_append _ _ _ _ hi
  · intro i hi _
    exact List.getD_append _ _ _ _ hi

lemma apart_clone (hs : Valid s) : Apart s.clone.1 s.clone.2 := by
  refine ⟨by simp [State.clone], ?_, s.heap.maps.length, rfl, by simp [State.clone], ?_⟩
  · exact (Nat.ne_of_lt hs.payload).symm
  · intro hsame
    exact absurd (hs.headers _ hsame) (Nat.lt_irrefl _)

lemma extends_change (hs : Valid s) (c : Change) : Extends s (s.change c) := by
  cases c with
  | payload data =>
    refine ⟨⟨?_, hs.headers⟩, rfl, fun _ h => .inl h, ?_, le_rfl, ?_, fun _ _ _ => rfl⟩
    · simpa [State.change] using hs.payload
    · simp [State.change]
    · intro i hi hne
      simp [State.change, List.getD_eq_getElem?_getD, List.getElem?_set_ne (Ne.symm hne)]
  | headers h =>
    have hmake := extends_makeHeaders hs
    exact hmake.trans (extends_writeHeaders hmake.valid fun _ => h)

/-- The message of the caller is valid, and what was placed is apart from it. -/
structure Clean (s : State) : Prop where
  valid : Valid s
  placed : ∀ o ∈ s.placed, Apart s o

lemma placed_writeHeaders (f : Headers → Headers) : (s.writeHeaders f).placed = s.placed := by
  unfold State.writeHeaders
  split <;> rfl

lemma placed_makeHeaders : s.makeHeaders.placed = s.placed := by
  unfold State.makeHeaders
  split <;> rfl

lemma placed_prepare (name : String) (c : Call) : (s.prepare name c).placed = s.placed := by
  have hfold : ∀ (entries : List (Σ _ : String, String)) (s : State),
      (entries.foldl (fun s kv => s.setHeader kv.1 kv.2) s).placed = s.placed := by
    intro entries
    induction entries with
    | nil => exact fun _ => rfl
    | cons kv entries ih =>
      intro s
      rw [List.foldl_cons, ih, State.setHeader, placed_writeHeaders, placed_makeHeaders]
  unfold State.prepare State.injectHeaders
  dsimp only
  cases spanFromContext c.ctx with
  | none =>
    dsimp only
    rw [placed_makeHeaders, hfold]
    rfl
  | some span =>
    dsimp only
    rw [placed_writeHeaders, placed_makeHeaders, hfold]
    rfl

lemma placed_publish (name : String) (c : Call) :
    (s.publish name c).placed = s.placed ++
      (if c.outcome = .placed then [(s.prepare name c).clone.2] else []) := by
  unfold State.publish
  cases c.outcome with
  | closed => simp
  | failed => simpa [State.clone] using placed_prepare name c
  | placed => simpa [State.clone] using placed_prepare name c

lemma extends_publish (name : String) (hs : Valid s) (c : Call) : Extends s (s.publish name c) := by
  have hprepare := extends_prepare name hs c
  have hclone := extends_clone hprepare.valid
  unfold State.publish
  cases c.outcome with
  | closed => exact Extends.refl hs
  | failed => exact hprepare.trans hclone
  | placed =>
    have hboth := hprepare.trans hclone
    exact ⟨⟨hboth.valid.payload, hboth.valid.headers⟩, hboth.payload, hboth.headers, hboth.slices_le, hboth.maps_le,
      hboth.slices, hboth.maps⟩

lemma clean_publish (name : String) (hs : Clean s) (c : Call) : Clean (s.publish name c) := by
  have hextends := extends_publish name hs.valid c
  refine ⟨hextends.valid, ?_⟩
  rw [placed_publish]
  intro o ho
  obtain hold | hnew := List.mem_append.mp ho
  · exact (hs.placed o hold).extends hextends
  · split at hnew <;> rename_i houtcome
    · obtain rfl := List.mem_singleton.mp hnew
      have hapart := apart_clone (extends_prepare name hs.valid c).valid
      unfold State.publish
      rw [houtcome]
      exact ⟨hapart.payload, hapart.other, hapart.headers⟩
    · cases hnew

lemma clean_publishAll (name : String) (hs : Clean s) (calls : List Call) : Clean (s.publishAll name calls) := by
  induction calls generalizing s with
  | nil => exact hs
  | cons c calls ih => exact ih (clean_publish name hs c)

lemma clean_start (m : Message) (headers : Option Headers) : Clean (State.start m headers) := by
  refine ⟨⟨Nat.one_pos, ?_⟩, fun _ ho => (List.not_mem_nil ho).elim⟩
  intro a ha
  cases headers with
  | none => cases ha
  | some h =>
    obtain rfl := Option.some.inj ha
    exact Nat.one_pos

lemma extends_run (name : String) (hs : Valid s) (ops : List Op) : Extends s (s.run name ops) := by
  induction ops generalizing s with
  | nil => exact Extends.refl hs
  | cons op ops ih =>
    have hop : Extends s (s.apply name op) := by
      cases op with
      | publish c => exact extends_publish name hs c
      | change c => exact extends_change hs c
    exact hop.trans (ih hop.valid)

end Sharing

/-! ### The messages as values -/

section Values

variable {s : State} (name : String)

def traceHeaders (ctx : Context) : Headers :=
  match spanFromContext ctx with
  | none => ∅
  | some span => (∅ : Headers).insert headerTraceParent (traceParent span)

lemma read_makeHeaders : s.makeHeaders.heap.read s.makeHeaders.msg = s.heap.read s.msg := by
  unfold State.makeHeaders
  cases hheaders : s.msg.headers with
  | some a => rfl
  | none => simp [Heap.read, hheaders]

lemma read_writeHeaders (hs : Valid s) (hheaders : s.msg.headers ≠ none) (f : Headers → Headers) :
    (s.writeHeaders f).heap.read (s.writeHeaders f).msg =
      { s.heap.read s.msg with headers := f (s.heap.read s.msg).headers } := by
  obtain ⟨a, ha⟩ := Option.ne_none_iff_exists'.mp hheaders
  have hlt := hs.headers a ha
  simp [State.writeHeaders, Heap.read, ha, List.getD_eq_getElem?_getD, hlt]

lemma headers_makeHeaders : s.makeHeaders.msg.headers ≠ none := by
  unfold State.makeHeaders
  cases hheaders : s.msg.headers with
  | some a =>
    dsimp only
    rw [hheaders]
    exact Option.some_ne_none a
  | none => exact Option.some_ne_none _

lemma read_assign (hs : Valid s) (f : Headers → Headers) :
    (s.makeHeaders.writeHeaders f).heap.read (s.makeHeaders.writeHeaders f).msg =
      { s.heap.read s.msg with headers := f (s.heap.read s.msg).headers } := by
  rw [read_writeHeaders (extends_makeHeaders hs).valid headers_makeHeaders, read_makeHeaders]

lemma read_foldl_setHeader (hs : Valid s) (entries : List (Σ _ : String, String)) :
    (entries.foldl (fun s kv => s.setHeader kv.1 kv.2) s).heap.read
        (entries.foldl (fun s kv => s.setHeader kv.1 kv.2) s).msg =
      { s.heap.read s.msg with
        headers := entries.foldl (fun acc kv => acc.insert kv.1 kv.2) (s.heap.read s.msg).headers } := by
  induction entries generalizing s with
  | nil => rfl
  | cons kv entries ih =>
    rw [List.foldl_cons, ih (extends_setHeader hs kv.1 kv.2).valid, State.setHeader, read_assign hs]
    rfl

lemma read_injectHeaders (hs : Valid s) (ctx : Context) :
    (s.injectHeaders ctx).heap.read (s.injectHeaders ctx).msg =
      { s.heap.read s.msg with headers := mergeHeaders (s.heap.read s.msg).headers (traceHeaders ctx) } := by
  unfold State.injectHeaders traceHeaders
  cases spanFromContext ctx with
  | none => exact read_makeHeaders
  | some span => exact read_assign hs _

lemma read_prepare (hs : Valid s) (c : Call) :
    (s.prepare name c).heap.read (s.prepare name c).msg =
      Memory.prepare name (traceHeaders c.ctx) (s.heap.read s.msg) c.opts := by
  have hoptions := extends_setOptions name hs (publishOptions c.opts)
  have hheaders := extends_foldl_setHeader hoptions.valid (publishOptions c.opts).headers.entries
  unfold State.prepare
  dsimp only
  rw [read_injectHeaders hheaders.valid, read_foldl_setHeader hoptions.valid]
  unfold Memory.prepare publishTopic State.setOptions
  by_cases htopic : s.msg.topic = ""
  · simp [Heap.read, mergeHeaders, htopic]
  · simp [Heap.read, mergeHeaders, htopic]

lemma read_clone (s : State) : s.clone.1.heap.read s.clone.2 = s.heap.read s.msg := by
  simp [State.clone, Heap.read, List.getD_eq_getElem?_getD]

lemma read_msg_clone (hs : Valid s) : s.clone.1.heap.read s.clone.1.msg = s.heap.read s.msg := by
  have hmap : ∀ a, s.msg.headers = some a → s.clone.1.heap.maps.getD a ∅ = s.heap.maps.getD a ∅ :=
    fun a ha => List.getD_append _ _ _ _ (hs.headers a ha)
  have hslice : s.clone.1.heap.slices.getD s.msg.payload [] = s.heap.slices.getD s.msg.payload [] :=
    List.getD_append _ _ _ _ hs.payload
  unfold Heap.read
  change Message.mk _ _ (s.clone.1.heap.slices.getD s.msg.payload []) _ _ _ _ _ _ _ _ = _
  rw [hslice]
  cases hheaders : s.msg.headers with
  | none => simp [State.clone, hheaders]
  | some a =>
    have hsame := hmap a hheaders
    simp only [State.clone, hheaders, Option.map_some, Option.getD_some] at hsame ⊢
    rw [hsame]

def afterCall (name : String) (m : Message) (c : Call) : Message :=
  if c.outcome = .closed then m else Memory.prepare name (traceHeaders c.ctx) m c.opts

lemma read_publish (hs : Valid s) (c : Call) :
    (s.publish name c).heap.read (s.publish name c).msg = afterCall name (s.heap.read s.msg) c := by
  have hprepare := extends_prepare name hs c
  unfold State.publish afterCall
  cases c.outcome with
  | closed => rfl
  | failed => exact (read_msg_clone hprepare.valid).trans (read_prepare name hs c)
  | placed => exact (read_msg_clone hprepare.valid).trans (read_prepare name hs c)

lemma read_publishAll (hs : Clean s) (calls : List Call) :
    (s.publishAll name calls).heap.read (s.publishAll name calls).msg =
      calls.foldl (afterCall name) (s.heap.read s.msg) := by
  induction calls generalizing s with
  | nil => rfl
  | cons c calls ih =>
    rw [State.publishAll, List.foldl_cons, List.foldl_cons, ← read_publish name hs.valid c]
    exact ih (clean_publish name hs c)

lemma read_start (m : Message) (headers : Option Headers) :
    (State.start m headers).heap.read (State.start m headers).msg = { m with headers := headers.getD ∅ } := by
  cases headers <;> rfl

end Values

/-! ### What the earlier calls leave -/

section Options

variable {name : String} {m : Message} {po : PublishOptions} {c : Call} {earlier : List Call}

lemma lastSet_snoc {α : Type} (set : PublishOptions → Option α) (earlier : List Call) (c : Call) :
    lastSet set (earlier ++ [c]) =
      (if c.outcome = .closed then none else set (publishOptions c.opts)).or (lastSet set earlier) := by
  unfold lastSet
  rw [List.reverse_append, List.reverse_singleton, List.singleton_append, List.findSome?_cons]
  cases (if c.outcome = .closed then none else set (publishOptions c.opts)) <;> rfl

lemma publishTopic_eq (name : String) (po : PublishOptions) (m : Message) :
    publishTopic name po m = (setTopic po).getD (publishTopic name {} m) := by
  unfold setTopic
  by_cases hset : po.topic = ""
  · simp [publishTopic, hset]
  · simp [publishTopic, hset]

lemma publishTopic_prepare (name : String) (trace : Headers) (m : Message) (opts : List PublishOption) :
    publishTopic name {} (Memory.prepare name trace m opts) = publishTopic name (publishOptions opts) m := by
  have hchosen : publishTopic name {} (Memory.prepare name trace m opts) =
      if publishTopic name (publishOptions opts) m ≠ "" then publishTopic name (publishOptions opts) m else name := by
    simp [publishTopic, Memory.prepare]
  rw [hchosen]
  split <;> rename_i hne
  · rfl
  · have hempty : publishTopic name (publishOptions opts) m = "" := not_not.mp hne
    rw [hempty]
    unfold publishTopic at hempty
    split at hempty
    · exact absurd hempty ‹_›
    · split at hempty
      · exact absurd hempty ‹_›
      · exact hempty

lemma key_prepare (name : String) (trace : Headers) (m : Message) (opts : List PublishOption) :
    (Memory.prepare name trace m opts).key = (setKey (publishOptions opts)).getD m.key := by
  unfold setKey Memory.prepare
  dsimp only
  split <;> rfl

lemma delay_prepare (name : String) (trace : Headers) (m : Message) (opts : List PublishOption) :
    (Memory.prepare name trace m opts).delay = (setDelay (publishOptions opts)).getD m.delay := by
  unfold setDelay Memory.prepare
  dsimp only
  split <;> rfl

lemma lookup_traceHeaders {ctx : Context} {k : String} (hk : k ≠ headerTraceParent) :
    (traceHeaders ctx).lookup k = none := by
  unfold traceHeaders
  cases spanFromContext ctx with
  | none => rfl
  | some span => exact AList.lookup_insert_ne hk

lemma lookup_prepare (name : String) {trace : Headers} {k : String} (hk : trace.lookup k = none) (m : Message)
    (opts : List PublishOption) :
    (Memory.prepare name trace m opts).headers.lookup k =
      ((publishOptions opts).headers.lookup k).or (m.headers.lookup k) := by
  change (mergeHeaders (mergeHeaders m.headers (publishOptions opts).headers) trace).lookup k = _
  rw [lookup_mergeHeaders, hk, Option.none_or, lookup_mergeHeaders]

structure Replaces {α β : Type} (f : Option β → α → α) : Prop where
  none : ∀ a, f none a = a
  some : ∀ b a a', f (some b) a = f (some b) a'

lemma replaces_getD {α : Type} : Replaces (Option.getD : Option α → α → α) := ⟨fun _ => rfl, fun _ _ _ => rfl⟩

lemma replaces_or {α : Type} : Replaces (Option.or : Option α → Option α → Option α) :=
  ⟨fun _ => rfl, fun _ _ _ => rfl⟩

lemma view_after {α β : Type} {f : Option β → α → α} (hf : Replaces f) (set : PublishOptions → Option β)
    (view : Message → α)
    (hview : ∀ ctx m opts, view (Memory.prepare name (traceHeaders ctx) m opts) = f (set (publishOptions opts)) (view m))
    (m : Message) (earlier : List Call) :
    view (earlier.foldl (afterCall name) m) = f (lastSet set earlier) (view m) := by
  induction earlier using List.reverseRecOn with
  | nil => exact (hf.none _).symm
  | append_singleton earlier c ih =>
    rw [List.foldl_append, List.foldl_cons, List.foldl_nil, lastSet_snoc, afterCall]
    split
    · exact ih
    · rw [hview, ih]
      cases set (publishOptions c.opts) with
      | none => exact hf.none _
      | some b => exact hf.some b _ _

lemma replaced_iff {α β : Type} {f : Option β → α → α} (hf : Replaces f) (own before : Option β) (a : α) :
    f own (f before a) = f own a ↔ (own = none → ∀ b, before = some b → f (some b) a = a) := by
  cases own with
  | some b =>
    refine iff_of_true (hf.some b _ _) ?_
    rintro ⟨⟩
  | none =>
    rw [hf.none, hf.none]
    cases before with
    | none => simp [hf.none]
    | some b => simp

lemma agrees_iff (name : String) (m : Message) (earlier : List Call) (c : Call) :
    Agrees (Memory.prepare name (traceHeaders c.ctx) (earlier.foldl (afterCall name) m) c.opts)
        (Memory.prepare name ∅ m c.opts) ↔
      Undisturbed name m earlier (publishOptions c.opts) := by
  have htopic : (Memory.prepare name (traceHeaders c.ctx) (earlier.foldl (afterCall name) m) c.opts).topic =
      (Memory.prepare name ∅ m c.opts).topic ↔
        (setTopic (publishOptions c.opts) = none → ∀ t, lastSet setTopic earlier = some t →
          t = publishTopic name {} m) := by
    change publishTopic name (publishOptions c.opts) _ = publishTopic name (publishOptions c.opts) m ↔ _
    rw [publishTopic_eq name _ m, publishTopic_eq, view_after replaces_getD setTopic (publishTopic name {})
      (fun ctx m opts => (publishTopic_prepare name _ m opts).trans (publishTopic_eq name _ m))]
    exact replaced_iff replaces_getD _ _ _
  have hkey : (Memory.prepare name (traceHeaders c.ctx) (earlier.foldl (afterCall name) m) c.opts).key =
      (Memory.prepare name ∅ m c.opts).key ↔
        (setKey (publishOptions c.opts) = none → ∀ k, lastSet setKey earlier = some k → k = m.key) := by
    rw [key_prepare, key_prepare, view_after replaces_getD setKey Message.key fun ctx => key_prepare name _]
    exact replaced_iff replaces_getD _ _ _
  have hdelay : (Memory.prepare name (traceHeaders c.ctx) (earlier.foldl (afterCall name) m) c.opts).delay =
      (Memory.prepare name ∅ m c.opts).delay ↔
        (setDelay (publishOptions c.opts) = none → ∀ d, lastSet setDelay earlier = some d → d = m.delay) := by
    rw [delay_prepare, delay_prepare, view_after replaces_getD setDelay Message.delay
      fun ctx => delay_prepare name _]
    exact replaced_iff replaces_getD _ _ _
  have hheaders : ∀ k, k ≠ headerTraceParent →
      ((Memory.prepare name (traceHeaders c.ctx) (earlier.foldl (afterCall name) m) c.opts).headers.lookup k =
        (Memory.prepare name ∅ m c.opts).headers.lookup k ↔
          ((publishOptions c.opts).headers.lookup k = none →
            ∀ v, lastSet (fun po => po.headers.lookup k) earlier = some v → m.headers.lookup k = some v)) := by
    intro k hk
    rw [lookup_prepare name (lookup_traceHeaders hk), lookup_prepare name rfl,
      view_after replaces_or (fun po => po.headers.lookup k) (fun m => m.headers.lookup k)
        fun ctx => lookup_prepare name (lookup_traceHeaders hk)]
    refine (replaced_iff replaces_or _ _ _).trans ?_
    simp only [Option.some_or, eq_comm]
  constructor
  · intro h
    exact ⟨htopic.mp h.topic, hkey.mp h.key, hdelay.mp h.delay, fun k hk => (hheaders k hk).mp (h.headers k hk)⟩
  · intro h
    exact ⟨htopic.mpr h.topic, hkey.mpr h.key, hdelay.mpr h.delay, fun k hk => (hheaders k hk).mpr (h.headers k hk)⟩

end Options

end Isolation

open Isolation

/-- The calls are isolated exactly if none is disturbed by what the earlier ones have set. -/
theorem publish_isolated_iff (name : String) (m : Message) (headers : Option Headers) (calls : List Call) :
    Isolated name m headers calls ↔
      ∀ earlier c later, calls = earlier ++ c :: later → c.outcome = .placed →
        Undisturbed name { m with headers := headers.getD ∅ } earlier (publishOptions c.opts) := by
  have hclean : ∀ earlier, Clean ((State.start m headers).publishAll name earlier) := fun earlier =>
    clean_publishAll name (clean_start m headers) earlier
  -- what a call places, read in memory
  have hplaced : ∀ earlier c, c.outcome = .placed →
      ∃ o, ((State.start m headers).publishAll name (earlier ++ [c])).placed =
          ((State.start m headers).publishAll name earlier).placed ++ [o] ∧
        ((State.start m headers).publishAll name (earlier ++ [c])).heap.read o =
          Memory.prepare name (traceHeaders c.ctx)
            (earlier.foldl (afterCall name) { m with headers := headers.getD ∅ }) c.opts := by
    intro earlier c houtcome
    have hlast : (State.start m headers).publishAll name (earlier ++ [c]) =
        ((State.start m headers).publishAll name earlier).publish name c := by
      simp [State.publishAll]
    generalize hs : (State.start m headers).publishAll name earlier = s at *
    have hvalid : Valid s := hs ▸ (hclean earlier).valid
    have hread : s.heap.read s.msg = earlier.foldl (afterCall name) { m with headers := headers.getD ∅ } := by
      rw [← hs, read_publishAll name (clean_start m headers), read_start]
    refine ⟨(s.prepare name c).clone.2, ?_, ?_⟩
    · rw [hlast, placed_publish, if_pos houtcome]
    · rw [hlast, ← hread, ← read_prepare name hvalid, ← read_clone]
      unfold State.publish
      rw [houtcome]
  constructor
  · intro h earlier c later hcalls houtcome
    obtain ⟨o, ho, hagrees⟩ := h.own earlier c later hcalls houtcome
    obtain ⟨o', ho', hread⟩ := hplaced earlier c houtcome
    obtain rfl : o = o' := List.singleton_inj.mp (List.append_cancel_left (ho.symm.trans ho'))
    rw [hread] at hagrees
    exact (agrees_iff name _ earlier c).mp hagrees
  · intro h
    refine ⟨fun earlier c later hcalls houtcome => ?_, fun earlier later ops _ o ho => ?_⟩
    · obtain ⟨o, ho, hread⟩ := hplaced earlier c houtcome
      refine ⟨o, ho, ?_⟩
      rw [hread]
      exact (agrees_iff name _ earlier c).mpr (h earlier c later hcalls houtcome)
    · exact ((hclean earlier).placed o ho).read_eq (extends_run name (hclean earlier).valid ops)

def billingCalls : List Call := [{ opts := [.withTopic "billing"] }, { opts := [] }]

/-- The second call places its message under the topic of the first one. -/
theorem publish_not_isolated :
    ((State.start {} none).publishAll "memory_default" billingCalls).placed.map Object.topic =
        ["billing", "billing"] ∧
      (Memory.prepare "memory_default" ∅ {} []).topic = "memory_default" ∧
      ¬Isolated "memory_default" {} none billingCalls := by
  have htopics : ((State.start {} none).publishAll "memory_default" billingCalls).placed.map Object.topic =
      ["billing", "billing"] := by decide
  refine ⟨htopics, rfl, fun h => ?_⟩
  obtain ⟨o, ho, hagrees⟩ := h.own [{ opts := [.withTopic "billing"] }] { opts := [] } [] rfl rfl
  have hone : ((State.start {} none).publishAll "memory_default"
      [{ opts := [.withTopic "billing"] }]).placed.map Object.topic = ["billing"] := by decide
  have htopic : o.topic = "billing" := by
    have hboth := htopics
    change List.map Object.topic ((State.start {} none).publishAll "memory_default"
      ([{ opts := [.withTopic "billing"] }] ++ [{ opts := [] }])).placed = _ at hboth
    rw [ho, List.map_append, hone] at hboth
    simpa using hboth
  have hdefault : o.topic = "memory_default" := hagrees.topic
  rw [htopic] at hdefault
  exact absurd hdefault (by decide)

end MailBaby.Proofs
