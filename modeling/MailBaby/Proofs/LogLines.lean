import MailBaby.Proofs.Mime
import MailBaby.Proofs.Redaction

/-!
# Lines of the log

Whatever the message and the values of the fields are, one call writes one line.
-/

namespace MailBaby.Proofs

open Lib Lib.Mime MailBaby.Log

namespace LogLines

/-! ### Texts without line breaks -/

lemma hasBreak_quote (s : String) : hasBreak (quote s).toList = false := by
  have h := hasBreak_quoteText s.toList
  rwa [quoteText, String.ofList_toList] at h

lemma hasBreak_quoteLogText (t : List Char) : hasBreak (quoteLogText t) = false := hasBreak_quoteText t

lemma hasBreak_escapeLogText (s : String) : hasBreak (escapeLogText s) = false := by
  refine hasBreak_flatMap fun c _ => ?_
  split
  · rfl
  · split
    · rfl
    · simp_all [isBreak]

lemma isBreak_of_not_lt {c : Char} (h : ¬c.toNat < 0x20) : isBreak c = false := by
  have hreturn : c ≠ '\r' := by rintro rfl; exact h (by decide)
  have hbreak : c ≠ '\n' := by rintro rfl; exact h (by decide)
  simp only [isBreak, hreturn, hbreak, decide_false, Bool.or_false]

lemma hasBreak_quoted (text : List Char) : hasBreak (Json.Tree.quoted text) = false := by
  have hescape (c : Char) : hasBreak (Json.escape c) = false := by
    obtain ⟨letter, hletter, heq⟩ | ⟨hcode, heq⟩ | ⟨heq, hlow, -⟩ := Json.escape_cases c
    · rw [heq, hasBreak_cons, hasBreak_cons, isBreak_of_not_lt (Json.shortEscape_spec hletter).2.2]
      rfl
    · have hdigit : ∀ n : Fin 16, isBreak (Json.hexChar n.val) = false := by decide
      have hfirst := hdigit ⟨c.toNat / 4096, by omega⟩
      have hrest (n : Nat) := hdigit ⟨n % 16, Nat.mod_lt _ (by decide)⟩
      simp only [heq, Json.hexEscape, hasBreak_cons, hfirst, hrest]
      rfl
    · rw [heq, hasBreak_cons, isBreak_of_not_lt hlow]
      rfl
  rw [Json.Tree.quoted, hasBreak_cons, hasBreak_append, Json.literal, hasBreak_flatMap fun c _ => hescape c]
  rfl

lemma hasBreak_flatten {ts : List (List Char)} (h : ∀ t ∈ ts, hasBreak t = false) : hasBreak ts.flatten = false := by
  rw [hasBreak, List.any_flatten, List.any_eq_false]
  exact fun t ht => Bool.eq_false_iff.mp (h t ht)

lemma hasBreak_intercalate (sep : List Char) {ts : List (List Char)} (hsep : hasBreak sep = false)
    (h : ∀ t ∈ ts, hasBreak t = false) : hasBreak (sep.intercalate ts) = false := by
  induction ts with
  | nil => rfl
  | cons t ts ih =>
    have ht := h t List.mem_cons_self
    have hts := ih fun t ht => h t (List.mem_cons_of_mem _ ht)
    cases ts with
    | nil => simpa [List.intercalate] using ht
    | cons u ts =>
      have hcons : sep.intercalate (t :: u :: ts) = t ++ (sep ++ sep.intercalate (u :: ts)) := by
        simp [List.intercalate]
      rw [hcons, hasBreak_append, hasBreak_append, ht, hsep, hts]
      rfl

/-! ### The three formats -/

variable {fields : Fields}

lemma hasBreak_level (lvl : Level) : hasBreak lvl.string.toList = false := by cases lvl <;> decide

lemma forall_mem_rangeFields (order : List String) {f : String → FieldValue → List Char}
    (h : ∀ k v, fields.lookup k = some v → hasBreak (f k v) = false) :
    ∀ t ∈ rangeFields order fields f, hasBreak t = false := by
  intro t ht
  obtain ⟨k, -, hk⟩ := List.mem_filterMap.mp ht
  obtain ⟨v, hv, rfl⟩ := Option.map_eq_some_iff.mp hk
  exact h k v hv

/-- The names of the fields hold no line break, and no JSON form does: `encoding/json` writes values
without blanks. -/
structure Tidy (fields : Fields) : Prop where
  key : ∀ k v, fields.lookup k = some v → hasBreak k.toList = false
  json : ∀ k json printed, fields.lookup k = some (.other (some json) printed) → hasBreak json = false

lemma hasBreak_jsonValue (h : Tidy fields) {k : String} {v : FieldValue} (hv : fields.lookup k = some v) :
    ∀ text ∈ jsonValue v, hasBreak text = false := by
  intro text htext
  cases v with
  | string val | error err =>
    cases htext
    exact hasBreak_quoted _
  | other json printed =>
    cases htext
    exact h.json k text printed hv

lemma hasBreak_marshal {p : Payload} (h : ∀ k v, p.lookup k = some v → ∀ text ∈ v, hasBreak text = false) :
    hasBreak ((marshal p).getD []) = false := by
  have hfield : ∀ t ∈ (sortedKeys p).map (jsonField p), hasBreak t = false := by
    intro t ht
    obtain ⟨k, -, rfl⟩ := List.mem_map.mp ht
    have hvalue : hasBreak ((p.lookup k).join.getD []) = false := by
      cases hv : (p.lookup k).join with
      | none => rfl
      | some text =>
        obtain ⟨v, hk, htext⟩ := Option.bind_eq_some_iff.mp hv
        exact h k v hk text htext
    simp [jsonField, hasBreak_quoted, hvalue, isBreak]
  unfold marshal
  split
  · simp [hasBreak_intercalate [','] (by decide) hfield, isBreak]
  · rfl

lemma hasBreak_jsonText (h : Tidy fields) (timeStr msg callerStr : String) (lvl : Level) :
    hasBreak ((marshal (addFields fields (basePayload timeStr lvl msg callerStr))).getD []) = false := by
  refine hasBreak_marshal fun k v hk => ?_
  rw [Redaction.lookup_addFields] at hk
  cases hv : fields.lookup k with
  | some value =>
    rw [hv] at hk
    cases hk
    exact hasBreak_jsonValue h hv
  | none =>
    rw [hv] at hk
    refine Redaction.forall_lookup_basePayload (P := fun v => ∀ text ∈ v, hasBreak text = false) ?_ k v hk
    intro t text htext
    cases htext
    exact hasBreak_quoted t

lemma hasBreak_field (h : Tidy fields) {k : String} {v : FieldValue} (hv : fields.lookup k = some v)
    {t : List Char} (ht : hasBreak t = false) : hasBreak (k.toList ++ '=' :: t) = false := by
  simp [h.key k v hv, ht, isBreak]

lemma exists_logfmtLine (h : Tidy fields) (timeStr msg callerStr : String) (lvl : Level) (order : List String) :
    ∃ body, logfmtLine timeStr lvl msg callerStr fields order = body ++ ['\n'] ∧ hasBreak body = false := by
  refine ⟨_, rfl, ?_⟩
  have hfields : hasBreak (rangeFields order fields fun k v =>
      ' ' :: (k.toList ++ '=' :: quoteLogText (escapeLogText (redactSecrets v.sprint)))).flatten = false := by
    refine hasBreak_flatten (forall_mem_rangeFields order fun k v hv => ?_)
    rw [hasBreak_cons, hasBreak_field h hv (hasBreak_quoteLogText _)]
    decide
  have hcaller : hasBreak (if callerStr ≠ "" then " caller=".toList ++ (quote callerStr).toList else []) = false := by
    split
    · rw [hasBreak_append, hasBreak_quote]
      decide
    · rfl
  simp only [hasBreak_append, hasBreak_quote, hasBreak_quoteLogText, hasBreak_level, hfields, hcaller]
  decide

lemma exists_textLine (h : Tidy fields) {timeStr callerStr : String} (htime : hasBreak timeStr.toList = false)
    (hcaller : hasBreak callerStr.toList = false) (msg : String) (lvl : Level) (order : List String) :
    ∃ body, textLine timeStr lvl msg callerStr fields order = body ++ ['\n'] ∧ hasBreak body = false := by
  refine ⟨_, rfl, ?_⟩
  have hextra := hasBreak_intercalate [' '] (by decide) (forall_mem_rangeFields
    (order.filter fun k => k ≠ "trace_id" ∧ k ≠ "span_id") fun k v hv =>
      hasBreak_field h hv (hasBreak_escapeLogText (redactSecrets v.sprint)))
  have hfields : hasBreak (if extraFields order fields ≠ [] then
      " | ".toList ++ [' '].intercalate (extraFields order fields) else []) = false := by
    split
    · rw [hasBreak_append, extraFields, hextra]
      decide
    · rfl
  have hsource : hasBreak (if callerStr ≠ "" then " [".toList ++ callerStr.toList ++ "]".toList else []) = false := by
    split
    · rw [hasBreak_append, hasBreak_append, hcaller]
      decide
    · rfl
  cases htrace : fields.lookup "trace_id" with
  | none | some tid =>
    simp only [hasBreak_append, hasBreak_cons, hasBreak_level, hasBreak_escapeLogText, htime, hfields, hsource]
    decide

/-- The time in a layout without line breaks and the name of a source file hold none. -/
structure Tame (env : LogEnv) : Prop where
  format : ∀ layout, hasBreak layout.toList = false → hasBreak (env.format layout).toList = false
  caller : ∀ name ∈ env.caller, hasBreak name.toList = false

variable {l : Logger} {env : LogEnv}

lemma Tame.timeStr (h : Tame env) (hlayout : hasBreak l.cfg.timeFormat.toList = false) :
    hasBreak (l.timeStr env).toList = false := by
  unfold Logger.timeStr
  split
  · exact h.format _ hlayout
  · exact h.format _ (by decide)

lemma Tame.callerStr (h : Tame env) : hasBreak (l.callerStr env).toList = false := by
  unfold Logger.callerStr
  split
  · cases hcaller : env.caller with
    | none => rfl
    | some name => exact h.caller name hcaller
  · rfl

lemma exists_line (henv : Tame env) (hlayout : hasBreak l.cfg.timeFormat.toList = false) (h : Tidy fields)
    (lvl : Level) (msg : String) (order : List String) :
    ∃ body, l.line env lvl msg fields order = body ++ ['\n'] ∧ hasBreak body = false := by
  unfold Logger.line
  split
  · exact ⟨_, rfl, hasBreak_jsonText h _ _ _ _⟩
  · exact exists_logfmtLine h _ _ _ _ _
  · exact exists_textLine h (henv.timeStr hlayout) henv.callerStr _ _ _

end LogLines

open LogLines

/-- A call at or above the level of its logger writes one line, in every format. -/
theorem log_writes_one_line (l : Logger) (env : LogEnv) (lvl : Level) (msg : String) (fields : Fields)
    (order : List String) (hlevel : l.level.rank ≤ lvl.rank) (hout : l.out = true) (henv : Tame env)
    (hlayout : hasBreak l.cfg.timeFormat.toList = false) (hfields : Tidy fields) :
    ∃ body, (log (some l) env lvl msg fields order).written = some (body ++ ['\n']) ∧ hasBreak body = false := by
  obtain ⟨body, hline, hbody⟩ := exists_line henv hlayout hfields lvl msg order
  refine ⟨body, ?_, hbody⟩
  simp only [log, if_neg (Nat.not_lt.mpr hlevel), hout, if_true, hline]

namespace LogLines

lemma tame_atNoon : Tame Redaction.atNoon where
  format _ _ := (by decide : hasBreak "12:00".toList = false)
  caller name hname := by cases hname

def forging : Fields := (∅ : Fields).insert "user" (.string "eve\n[12:00] [INFO] accepted")

lemma tidy_forging : Tidy forging where
  key k v hv := by
    by_cases hk : k = "user"
    · subst hk
      rfl
    · rw [forging, AList.lookup_insert_ne hk] at hv
      cases hv
  json k json printed hv := by
    by_cases hk : k = "user"
    · rw [forging, hk, AList.lookup_insert] at hv
      cases hv
    · rw [forging, AList.lookup_insert_ne hk] at hv
      cases hv

end LogLines

theorem log_writes_one_line_forging :
    ∃ body, (log (some {}) Redaction.atNoon .warn "rejected\r\n" forging ["user"]).written = some (body ++ ['\n']) ∧
      hasBreak body = false :=
  log_writes_one_line {} Redaction.atNoon .warn "rejected\r\n" forging ["user"] (by decide) rfl tame_atNoon rfl
    tidy_forging

end MailBaby.Proofs
