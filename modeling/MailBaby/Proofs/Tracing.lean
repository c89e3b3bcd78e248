import MailBaby.Tracing

/-!
# Continuity of traces

The identifiers of every span in a context have the lengths that the header is checked for and are free of
the dash that separates its parts, also if they come from the headers of a message.
-/

namespace MailBaby.Proofs

open Lib MailBaby.Tracing

namespace Tracing

variable {s : Span} {ctx : Context}

def IsPart (n : Nat) (s : String) : Prop := (utf8 s.toList).length = n ∧ '-' ∉ s.toList

structure Portable (s : Span) : Prop where
  traceID : IsPart 32 s.traceID
  spanID : IsPart 16 s.spanID

def Carries (ctx : Context) : Prop := ∀ s ∈ ctx.span, Portable s

/-! ### Identifiers -/

lemma isPart_encode (data : Bytes) : IsPart (2 * data.length) (String.ofList (Hex.encode data)) := by
  refine ⟨?_, fun hdash => ?_⟩
  · rw [String.toList_ofList, Hex.length_utf8_encode]
  · rw [String.toList_ofList] at hdash
    exact Hex.forall_mem_encode (P := (· ≠ '-')) (by decide) data '-' hdash rfl

lemma isPart_generateTraceID (rand : Random) : IsPart 32 (generateTraceID rand) := by
  have hpart := isPart_encode rand.trace
  rwa [rand.length_trace] at hpart

lemma isPart_generateSpanID (rand : Random) : IsPart 16 (generateSpanID rand) := by
  have hpart := isPart_encode rand.span
  rwa [rand.length_span] at hpart

/-! ### The header -/

lemma not_mem_of_mem_splitOn {text part : List Char} {sep : Char} (h : part ∈ text.splitOn sep) : sep ∉ part := by
  rw [List.splitOn_eq_splitOnP] at h
  induction text generalizing part with
  | nil =>
    rw [List.splitOnP_nil, List.mem_singleton] at h
    rw [h]
    exact List.not_mem_nil
  | cons c text ih =>
    rw [List.splitOnP_cons_eq_if_modifyHead] at h
    split at h <;> rename_i hc
    · obtain rfl | h := List.mem_cons.mp h
      · exact List.not_mem_nil
      · exact ih h
    · cases hsplit : text.splitOnP (· == sep) with
      | nil => exact absurd hsplit (List.splitOnP_ne_nil _ _)
      | cons head parts =>
        rw [hsplit, List.modifyHead_cons] at h
        rw [hsplit] at ih
        obtain rfl | h := List.mem_cons.mp h
        · rintro (_ | ⟨_, hmem⟩)
          · exact hc (beq_self_eq_true _)
          · exact ih List.mem_cons_self hmem
        · exact ih (List.mem_cons_of_mem _ h)

lemma portable_of_parseTraceParent {tpHeader : String} (h : parseTraceParent tpHeader = some s) :
    Portable s := by
  unfold parseTraceParent at h
  split at h
  · rename_i version traceID spanID flags hsplit
    split at h
    · rename_i hlength
      cases h
      have hpart : ∀ part ∈ splitDash tpHeader, '-' ∉ part.toList := by
        intro part hmem
        obtain ⟨text, htext, rfl⟩ := List.mem_map.mp hmem
        rw [String.toList_ofList]
        exact not_mem_of_mem_splitOn htext
      rw [hsplit] at hpart
      exact ⟨⟨hlength.1, hpart _ (by simp)⟩, ⟨hlength.2, hpart _ (by simp)⟩⟩
    · cases h
  · cases h

lemma parseTraceParent_traceParent (h : Portable s) :
    parseTraceParent (traceParent s) =
      some { traceID := s.traceID, spanID := s.spanID, name := "remote_parent" } := by
  have htext : (traceParent s).toList =
      ['-'].intercalate ["00".toList, s.traceID.toList, s.spanID.toList, "01".toList] := by
    simp [traceParent, List.intercalate]
  have hsplit : splitDash (traceParent s) = ["00", s.traceID, s.spanID, "01"] := by
    rw [splitDash, htext, List.splitOn_intercalate]
    · simp
    · intro part hpart
      simp only [List.mem_cons, List.not_mem_nil, or_false] at hpart
      rcases hpart with rfl | rfl | rfl | rfl
      · decide
      · exact h.traceID.2
      · exact h.spanID.2
      · decide
    · simp
  unfold parseTraceParent
  rw [hsplit]
  exact if_pos ⟨h.traceID.1, h.spanID.1⟩

lemma traceParent_ne_empty (s : Span) : traceParent s ≠ "" := by
  intro hempty
  have htext := congrArg String.toList hempty
  simp [traceParent] at htext

/-! ### Contexts -/

lemma carries_startSpan (h : Carries ctx) (rand : Random) (name : String) :
    Carries (startSpan rand ctx name).1 := by
  rintro s hs
  obtain rfl := Option.some.inj hs
  refine ⟨?_, isPart_generateSpanID rand⟩
  cases hparent : ctx.span with
  | none =>
    simp only [spanFromContext, hparent]
    exact isPart_generateTraceID rand
  | some parent =>
    simp only [spanFromContext, hparent]
    exact (h parent hparent).traceID

lemma carries_extractHeaders (h : Carries ctx) (order : RangeOrder (Σ _ : String, String))
    (headers : Option Headers) : Carries (extractHeaders order ctx headers) := by
  cases headers with
  | none => exact h
  | some headers =>
    unfold extractHeaders
    dsimp only
    split
    · exact h
    · cases hparse : parseTraceParent (findTraceParent order headers) with
      | none => exact h
      | some s =>
        rintro s' hs'
        obtain rfl := Option.some.inj hs'
        exact portable_of_parseTraceParent hparse

lemma carries_build (calls : List Build) : Carries (build calls) := by
  have hfold : ∀ (calls : List Build) (ctx : Context), Carries ctx → Carries (calls.foldl Build.apply ctx) := by
    intro calls
    induction calls with
    | nil => exact fun ctx h => h
    | cons call calls ih =>
      intro ctx h
      refine ih _ ?_
      cases call with
      | startSpan rand name => exact carries_startSpan h rand name
      | extractHeaders order headers => exact carries_extractHeaders h order headers
  exact hfold calls background fun s hs => by cases hs

/-! ### Hops -/

lemma extractHeaders_injectHeaders (hctx : ctx.span = some s) (hs : Portable s)
    (order : RangeOrder (Σ _ : String, String)) (headers : Headers) (consumer : Context) :
    (extractHeaders order consumer (injectHeaders ctx (some headers))).span =
      some { traceID := s.traceID, spanID := s.spanID, name := "remote_parent" } := by
  have hfind : findTraceParent order (headers.insert headerTraceParent (traceParent s)) = traceParent s := by
    unfold findTraceParent
    rw [AList.lookup_insert]
    exact if_pos (traceParent_ne_empty s)
  unfold injectHeaders spanFromContext
  rw [hctx]
  unfold extractHeaders
  dsimp only
  rw [hfind, if_neg (traceParent_ne_empty s), parseTraceParent_traceParent hs]
  rfl

lemma hop_keeps (hctx : ctx.span = some s) (hs : Portable s) (hop : Hop) :
    ∃ s', (hop.apply ctx).span = some s' ∧ Portable s' ∧ s'.traceID = s.traceID := by
  cases hop with
  | startSpan rand name =>
    have hcarries : Carries ctx := fun s' hs' => by
      rw [hctx] at hs'
      obtain rfl := Option.some.inj hs'
      exact hs
    refine ⟨_, rfl, carries_startSpan hcarries rand name _ rfl, ?_⟩
    simp only [spanFromContext, hctx]
  | message order headers consumer =>
    refine ⟨_, extractHeaders_injectHeaders hctx hs order headers consumer, ?_, rfl⟩
    exact ⟨hs.traceID, hs.spanID⟩

lemma travel_keeps (hctx : ctx.span = some s) (hs : Portable s) (hops : List Hop) :
    ∃ s', (travel ctx hops).span = some s' ∧ s'.traceID = s.traceID := by
  induction hops generalizing ctx s with
  | nil => exact ⟨s, hctx, rfl⟩
  | cons hop hops ih =>
    obtain ⟨s', hctx', hs', htrace⟩ := hop_keeps hctx hs hop
    obtain ⟨s'', hctx'', htrace'⟩ := ih hctx' hs'
    exact ⟨s'', hctx'', htrace'.trans htrace⟩

end Tracing

open Tracing

/-- A span survives every hop, and a chain of any length keeps the trace of its first span. -/
theorem trace_continuity (calls : List Build) (s : Span) (hs : (build calls).span = some s) :
    (∀ (order : RangeOrder (Σ _ : String, String)) (headers : Headers) (consumer : Context),
      ∃ s', (extractHeaders order consumer (injectHeaders (build calls) (some headers))).span = some s' ∧
        s'.traceID = s.traceID ∧ s'.spanID = s.spanID) ∧
      ∀ hops : List Hop, ∃ s', (travel (build calls) hops).span = some s' ∧ s'.traceID = s.traceID := by
  have hportable : Portable s := carries_build calls s hs
  refine ⟨fun order headers consumer => ?_, travel_keeps hs hportable⟩
  exact ⟨_, extractHeaders_injectHeaders hs hportable order headers consumer, rfl, rfl⟩

def zeros : Random := ⟨List.replicate 16 0, List.replicate 8 0, rfl, rfl⟩

theorem trace_continuity_root :
    ∃ s, (build [.startSpan zeros "root"]).span = some s ∧ s.spanID = "0000000000000000" ∧
      ∀ hops : List Hop, ∃ s', (travel (build [.startSpan zeros "root"]) hops).span = some s' ∧
        s'.traceID = s.traceID :=
  ⟨_, rfl, by decide, (trace_continuity [.startSpan zeros "root"] _ rfl).2⟩

end MailBaby.Proofs
