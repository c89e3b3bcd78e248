import MailBaby.Logger

/-!
# What reaches the log

Two calls that redaction cannot tell apart write the same line in the formats `logfmt` and `text`. A line
of JSON shows the message as it is, unless a field takes its place.
-/

namespace MailBaby.Proofs

open Lib MailBaby.Log

namespace Redaction

/-! ### Values that redaction cannot tell apart -/

def IsText : FieldValue → Prop
  | .string _ => True
  | .error _ => True
  | .other .. => False

/-- The values of one field in two calls: the same, or texts with the same redacted form. The trace is
not redacted. -/
def Alike (k : String) (v v' : FieldValue) : Prop :=
  v = v' ∨ k ≠ "trace_id" ∧ k ≠ "span_id" ∧ IsText v ∧ IsText v' ∧
    redactSecrets v.sprint = redactSecrets v'.sprint

lemma Alike.redactSecrets_eq {k : String} {v v' : FieldValue} (h : Alike k v v') :
    redactSecrets v.sprint = redactSecrets v'.sprint := by
  obtain rfl | ⟨-, -, -, -, h⟩ := h
  · rfl
  · exact h

lemma jsonValue_of_isText {v : FieldValue} (h : IsText v) :
    jsonValue v = some (Json.Tree.quoted (redactSecrets v.sprint).toList) := by
  cases v with
  | string val => rfl
  | error text => rfl
  | other json printed => exact h.elim

lemma Alike.jsonValue_eq {k : String} {v v' : FieldValue} (h : Alike k v v') : jsonValue v = jsonValue v' := by
  obtain rfl | ⟨-, -, hv, hv', h⟩ := h
  · rfl
  · rw [jsonValue_of_isText hv, jsonValue_of_isText hv', h]

def FieldsAlike (f f' : Fields) : Prop := ∀ k, Option.Rel (Alike k) (f.lookup k) (f'.lookup k)

variable {f f' : Fields}

lemma FieldsAlike.map_eq {α : Type} (h : FieldsAlike f f') (k : String) {g : FieldValue → α}
    (hg : ∀ v v', Alike k v v' → g v = g v') : (f.lookup k).map g = (f'.lookup k).map g := by
  have hk := h k
  cases hf : f.lookup k with
  | none =>
    cases hf' : f'.lookup k with
    | none => rfl
    | some v' =>
      rw [hf, hf'] at hk
      cases hk
  | some v =>
    cases hf' : f'.lookup k with
    | none =>
      rw [hf, hf'] at hk
      cases hk
    | some v' =>
      rw [hf, hf'] at hk
      cases hk with
      | some hv => exact congrArg some (hg v v' hv)

lemma rangeFields_congr (h : FieldsAlike f f') (order : List String) {g : String → FieldValue → List Char}
    (hg : ∀ k v v', Alike k v v' → g k v = g k v') : rangeFields order f g = rangeFields order f' g :=
  List.filterMap_congr fun k _ => h.map_eq k (hg k)

/-! ### Formats without the message -/

variable {msg msg' : String}

lemma logfmtLine_congr (h : FieldsAlike f f') (hmsg : redactSecrets msg = redactSecrets msg')
    (timeStr : String) (lvl : Level) (callerStr : String) (order : List String) :
    logfmtLine timeStr lvl msg callerStr f order = logfmtLine timeStr lvl msg' callerStr f' order := by
  unfold logfmtLine
  rw [hmsg, rangeFields_congr h order fun k v v' hv => by rw [hv.redactSecrets_eq]]

lemma lookup_trace_id (h : FieldsAlike f f') : f.lookup "trace_id" = f'.lookup "trace_id" := by
  have hid := h.map_eq "trace_id" (g := id) fun v v' hv => hv.resolve_right fun hne => hne.1 rfl
  simpa using hid

lemma textLine_congr (h : FieldsAlike f f') (hmsg : redactSecrets msg = redactSecrets msg')
    (timeStr : String) (lvl : Level) (callerStr : String) (order : List String) :
    textLine timeStr lvl msg callerStr f order = textLine timeStr lvl msg' callerStr f' order := by
  have hextra : extraFields order f = extraFields order f' :=
    rangeFields_congr h _ fun k v v' hv => by rw [hv.redactSecrets_eq]
  unfold textLine
  rw [hmsg, hextra, lookup_trace_id h]

/-! ### JSON -/

section Marshal

variable {p p' : Payload}

lemma sortedKeys_congr (h : ∀ k, (p.lookup k).isSome = (p'.lookup k).isSome) : sortedKeys p = sortedKeys p' := by
  have hmem : ∀ k, k ∈ p.keys ↔ k ∈ p'.keys := by
    intro k
    rw [← AList.mem_keys, ← AList.mem_keys, ← AList.lookup_isSome, ← AList.lookup_isSome, h]
  have hperm : p.keys.Perm p'.keys := (List.perm_ext_iff_of_nodup p.keys_nodup p'.keys_nodup).mpr hmem
  have hsorted : ∀ keys : List String,
      (keys.mergeSort fun a b => !decide (b < a)).Pairwise fun a b => (!decide (b < a)) = true := by
    refine List.pairwise_mergeSort (fun a b c hab hbc => ?_) fun a b => ?_
    · simp only [Bool.not_eq_true', decide_eq_false_iff_not, String.not_lt] at hab hbc ⊢
      exact String.le_trans hab hbc
    · simp only [Bool.or_eq_true, Bool.not_eq_true', decide_eq_false_iff_not, String.not_lt]
      exact String.le_total a b
  refine List.Perm.eq_of_pairwise (fun a b _ _ hab hba => ?_) (hsorted p.keys) (hsorted p'.keys)
    ((List.mergeSort_perm _ _).trans (hperm.trans (List.mergeSort_perm _ _).symm))
  simp only [Bool.not_eq_true', decide_eq_false_iff_not, String.not_lt] at hab hba
  exact String.le_antisymm hab hba

lemma mem_sortedKeys {k : String} : k ∈ sortedKeys p ↔ (p.lookup k).isSome = true := by
  rw [sortedKeys, List.mem_mergeSort, AList.lookup_isSome, AList.mem_keys]

lemma nodup_sortedKeys (p : Payload) : (sortedKeys p).Nodup :=
  (List.mergeSort_perm _ _).nodup_iff.mpr p.keys_nodup

def Encodable (p : Payload) : Prop := ∀ k v, p.lookup k = some v → v.isSome = true

lemma marshal_of_encodable (h : Encodable p) :
    marshal p = some ('{' :: ([','].intercalate ((sortedKeys p).map (jsonField p)) ++ ['}'])) := by
  refine if_pos (List.all_eq_true.mpr fun k hk => ?_)
  obtain ⟨v, hv⟩ := Option.isSome_iff_exists.mp (AList.lookup_isSome.mpr (AList.mem_keys.mpr hk))
  rw [hv]
  exact h k v hv

lemma marshal_of_not_encodable (h : ¬Encodable p) : marshal p = none := by
  refine if_neg fun hall => h fun k v hv => ?_
  have hk : k ∈ p.keys := AList.mem_keys.mp (AList.lookup_isSome.mp (by rw [hv]; rfl))
  have hsome := List.all_eq_true.mp hall k hk
  rwa [hv] at hsome

lemma marshal_congr (h : ∀ k, p.lookup k = p'.lookup k) : marshal p = marshal p' := by
  have hencodable : Encodable p ↔ Encodable p' := by simp only [Encodable, h]
  have hkeys : sortedKeys p = sortedKeys p' := sortedKeys_congr fun k => by rw [h]
  have hfield : jsonField p = jsonField p' := by
    funext k
    rw [jsonField, jsonField, h]
  by_cases hp : Encodable p
  · rw [marshal_of_encodable hp, marshal_of_encodable (hencodable.mp hp), hkeys, hfield]
  · rw [marshal_of_not_encodable hp, marshal_of_not_encodable fun hp' => hp (hencodable.mpr hp')]

lemma exists_around (sep : List Char) (before after : List (List Char)) :
    ∃ left right, ∀ x, sep.intercalate (before ++ x :: after) = left ++ (x ++ right) := by
  induction before with
  | nil =>
    cases after with
    | nil => exact ⟨[], [], fun x => by simp [List.intercalate]⟩
    | cons y after => exact ⟨[], sep ++ sep.intercalate (y :: after), fun x => by simp [List.intercalate]⟩
  | cons y before ih =>
    obtain ⟨left, right, hx⟩ := ih
    refine ⟨y ++ (sep ++ left), right, fun x => ?_⟩
    have hcons : sep.intercalate (y :: (before ++ x :: after)) =
        y ++ (sep ++ sep.intercalate (before ++ x :: after)) := by
      cases before with
      | nil => simp [List.intercalate]
      | cons z before => simp [List.intercalate]
    rw [List.cons_append, hcons, hx]
    simp only [List.append_assoc]

lemma quoted_injective : Function.Injective Json.Tree.quoted := by
  intro t t' h
  have hliteral : Json.literal t = Json.literal t' := List.append_cancel_right (List.cons.inj h).2
  have hunquote := congrArg Json.unquote hliteral
  rw [Json.unquote_literal, Json.unquote_literal] at hunquote
  exact Option.some.inj hunquote

lemma marshal_eq_iff {key : String} {t t' : List Char} (hne : ∀ k, k ≠ key → p.lookup k = p'.lookup k)
    (ht : p.lookup key = some (some (Json.Tree.quoted t))) (ht' : p'.lookup key = some (some (Json.Tree.quoted t'))) :
    marshal p = marshal p' ↔ (Encodable p → t = t') := by
  have hencodable : Encodable p ↔ Encodable p' := by
    refine forall_congr' fun k => ?_
    by_cases hk : k = key
    · subst hk
      simp [ht, ht']
    · rw [hne k hk]
  have hkeys : sortedKeys p = sortedKeys p' := by
    refine sortedKeys_congr fun k => ?_
    by_cases hk : k = key
    · rw [hk, ht, ht']
      rfl
    · rw [hne k hk]
  by_cases hp : Encodable p
  · obtain ⟨before, after, hsplit⟩ := List.append_of_mem (mem_sortedKeys.mpr (ht ▸ rfl) : key ∈ sortedKeys p)
    have hnodup := nodup_sortedKeys p
    rw [hsplit, List.nodup_middle, List.nodup_cons, List.mem_append] at hnodup
    have hfield : ∀ k ∈ before ++ after, jsonField p k = jsonField p' k := by
      intro k hk
      have hkne : k ≠ key := by
        rintro rfl
        exact hnodup.1 (List.mem_append.mp hk)
      rw [jsonField, jsonField, hne k hkne]
    have hbefore : before.map (jsonField p) = before.map (jsonField p') :=
      List.map_congr_left fun k hk => hfield k (List.mem_append_left _ hk)
    have hafter : after.map (jsonField p) = after.map (jsonField p') :=
      List.map_congr_left fun k hk => hfield k (List.mem_append_right _ hk)
    obtain ⟨left, right, haround⟩ := exists_around [','] (before.map (jsonField p')) (after.map (jsonField p'))
    rw [marshal_of_encodable hp, marshal_of_encodable (hencodable.mp hp), ← hkeys, hsplit]
    simp only [List.map_append, List.map_cons, hbefore, hafter, haround, hp, true_implies, Option.some.injEq,
      List.cons.injEq, true_and, List.append_cancel_right_eq, List.append_cancel_left_eq, jsonField, ht, ht',
      Option.join_some, Option.getD_some]
    exact quoted_injective.eq_iff
  · simp only [marshal_of_not_encodable hp, marshal_of_not_encodable fun hp' => hp (hencodable.mpr hp'), hp,
      false_implies]

lemma getD_marshal_eq_iff : (marshal p).getD [] = (marshal p').getD [] ↔ marshal p = marshal p' := by
  refine ⟨fun h => ?_, fun h => by rw [h]⟩
  by_cases hp : Encodable p
  · by_cases hp' : Encodable p'
    · rw [marshal_of_encodable hp, marshal_of_encodable hp'] at h ⊢
      exact congrArg some h
    · rw [marshal_of_encodable hp, marshal_of_not_encodable hp'] at h
      cases h
  · by_cases hp' : Encodable p'
    · rw [marshal_of_not_encodable hp, marshal_of_encodable hp'] at h
      cases h
    · rw [marshal_of_not_encodable hp, marshal_of_not_encodable hp']

end Marshal

lemma lookup_addFields (f : Fields) (base : Payload) (k : String) :
    (addFields f base).lookup k = ((f.lookup k).map jsonValue).or (base.lookup k) :=
  lookup_foldl_insert jsonValue f base k

lemma lookup_insert_congr {p p' : Payload} {k : String} (h : p.lookup k = p'.lookup k) (key : String)
    (v : Option (List Char)) : (p.insert key v).lookup k = (p'.insert key v).lookup k := by
  by_cases hk : k = key
  · rw [hk, AList.lookup_insert, AList.lookup_insert]
  · rw [AList.lookup_insert_ne hk, AList.lookup_insert_ne hk, h]

lemma lookup_basePayload_of_ne (timeStr : String) (lvl : Level) (msg msg' callerStr : String) {k : String}
    (hk : k ≠ "message") :
    (basePayload timeStr lvl msg callerStr).lookup k = (basePayload timeStr lvl msg' callerStr).lookup k := by
  unfold basePayload
  dsimp only
  split
  · refine lookup_insert_congr ?_ _ _
    rw [AList.lookup_insert_ne hk, AList.lookup_insert_ne hk]
  · rw [AList.lookup_insert_ne hk, AList.lookup_insert_ne hk]

lemma lookup_basePayload_message (timeStr : String) (lvl : Level) (msg callerStr : String) :
    (basePayload timeStr lvl msg callerStr).lookup "message" = some (some (Json.Tree.quoted msg.toList)) := by
  unfold basePayload
  dsimp only
  split
  · rw [AList.lookup_insert_ne (by decide), AList.lookup_insert]
  · rw [AList.lookup_insert]

lemma forall_lookup_insert {P : Option (List Char) → Prop} {p : Payload} (h : ∀ k v, p.lookup k = some v → P v)
    (key : String) {value : Option (List Char)} (hvalue : P value) :
    ∀ k v, (p.insert key value).lookup k = some v → P v := by
  intro k v hv
  by_cases hk : k = key
  · rw [hk, AList.lookup_insert] at hv
    cases hv
    exact hvalue
  · rw [AList.lookup_insert_ne hk] at hv
    exact h k v hv

lemma forall_lookup_basePayload {P : Option (List Char) → Prop} (h : ∀ t, P (some (Json.Tree.quoted t)))
    {timeStr msg callerStr : String} {lvl : Level} :
    ∀ k v, (basePayload timeStr lvl msg callerStr).lookup k = some v → P v := by
  have hempty : ∀ k v, (∅ : Payload).lookup k = some v → P v := fun k v hv => by cases hv
  have hthree := forall_lookup_insert (forall_lookup_insert (forall_lookup_insert hempty "timestamp"
    (h timeStr.toList)) "level" (h lvl.string.toList)) "message" (h msg.toList)
  unfold basePayload
  dsimp only
  split
  · exact forall_lookup_insert hthree "caller" (h callerStr.toList)
  · exact hthree

def FieldsEncodable (f : Fields) : Prop := ∀ k v, f.lookup k = some v → (jsonValue v).isSome = true

lemma encodable_addFields {base : Payload} (h : Encodable base) :
    Encodable (addFields f base) ↔ FieldsEncodable f := by
  constructor
  · intro hp k v hv
    refine hp k (jsonValue v) ?_
    rw [lookup_addFields, hv]
    rfl
  · intro hf k value hvalue
    rw [lookup_addFields] at hvalue
    cases hv : f.lookup k with
    | some v =>
      rw [hv] at hvalue
      cases hvalue
      exact hf k v hv
    | none =>
      rw [hv] at hvalue
      exact h k value hvalue

lemma jsonLine_eq_iff (h : FieldsAlike f f') (timeStr : String) (lvl : Level) (callerStr : String) :
    jsonLine timeStr lvl msg callerStr f = jsonLine timeStr lvl msg' callerStr f' ↔
      (f.lookup "message" = none → FieldsEncodable f → msg = msg') := by
  have hvalue : ∀ k, (f.lookup k).map jsonValue = (f'.lookup k).map jsonValue := fun k =>
    h.map_eq k fun v v' hv => hv.jsonValue_eq
  have hne : ∀ k, k ≠ "message" →
      (addFields f (basePayload timeStr lvl msg callerStr)).lookup k =
        (addFields f' (basePayload timeStr lvl msg' callerStr)).lookup k := by
    intro k hk
    rw [lookup_addFields, lookup_addFields, hvalue, lookup_basePayload_of_ne _ _ msg msg' _ hk]
  rw [jsonLine, jsonLine, List.append_cancel_right_eq, getD_marshal_eq_iff]
  cases hmessage : f.lookup "message" with
  | some v =>
    -- the field takes the place of the message
    refine iff_of_true (marshal_congr fun k => ?_) fun hnone => by cases hnone
    by_cases hk : k = "message"
    · have hv := hvalue "message"
      rw [hmessage] at hv
      rw [hk, lookup_addFields, lookup_addFields, ← hv, hmessage]
      rfl
    · exact hne k hk
  | none =>
    have hnone : (f'.lookup "message").map jsonValue = none := by rw [← hvalue, hmessage]; rfl
    have hmsg : (addFields f (basePayload timeStr lvl msg callerStr)).lookup "message" =
        some (some (Json.Tree.quoted msg.toList)) := by
      rw [lookup_addFields, hmessage]
      exact lookup_basePayload_message timeStr lvl msg callerStr
    have hmsg' : (addFields f' (basePayload timeStr lvl msg' callerStr)).lookup "message" =
        some (some (Json.Tree.quoted msg'.toList)) := by
      rw [lookup_addFields, hnone]
      exact lookup_basePayload_message timeStr lvl msg' callerStr
    rw [marshal_eq_iff hne hmsg hmsg', encodable_addFields (forall_lookup_basePayload fun _ => rfl),
      String.toList_inj]
    simp only [true_implies]

/-- The message of a call is shown as it is: the line is written in JSON, and no field takes the place of
the message. -/
def ShowsMessage (logger : Option Logger) (lvl : Level) (f : Fields) : Prop :=
  ∃ l, logger = some l ∧ l.level.rank ≤ lvl.rank ∧ l.out = true ∧ l.cfg.logFormat = .json ∧
    f.lookup "message" = none ∧ FieldsEncodable f

end Redaction

open Redaction

/-- Two calls that redaction cannot tell apart write the same, unless the message itself is shown. -/
theorem redaction_covers_iff (logger : Option Logger) (env : LogEnv) (lvl : Level) (order : List String)
    (msg msg' : String) (f f' : Fields) (hmsg : redactSecrets msg = redactSecrets msg')
    (hfields : FieldsAlike f f') :
    (log logger env lvl msg f order).written = (log logger env lvl msg' f' order).written ↔
      (ShowsMessage logger lvl f → msg = msg') := by
  cases logger with
  | none => exact iff_of_true rfl fun ⟨_, h, _⟩ => by cases h
  | some l =>
    by_cases hlevel : lvl.rank < l.level.rank
    · refine iff_of_true ?_ fun ⟨_, h, hle, _⟩ => ?_
      · simp only [log, if_pos hlevel]
      · cases h
        exact absurd hlevel (Nat.not_lt.mpr hle)
    · cases hout : l.out with
      | false =>
        refine iff_of_true ?_ fun ⟨_, h, _, hwriter, _⟩ => ?_
        · simp only [log, if_neg hlevel, hout, Bool.false_eq_true, if_false]
        · cases h
          rw [hout] at hwriter
          cases hwriter
      | true =>
        have hwritten : ∀ m fields, (log (some l) env lvl m fields order).written =
            some (l.line env lvl m fields order) := by
          intro m fields
          simp only [log, if_neg hlevel, hout, if_true]
        rw [hwritten, hwritten, Option.some.injEq]
        cases hformat : l.cfg.logFormat with
        | json =>
          have hshows : ShowsMessage (some l) lvl f ↔ f.lookup "message" = none ∧ FieldsEncodable f := by
            constructor
            · rintro ⟨_, h, -, -, -, hnone, hencodable⟩
              exact ⟨hnone, hencodable⟩
            · rintro ⟨hnone, hencodable⟩
              exact ⟨l, rfl, Nat.not_lt.mp hlevel, hout, hformat, hnone, hencodable⟩
          rw [hshows, and_imp]
          simp only [Logger.line, hformat]
          exact jsonLine_eq_iff hfields _ _ _
        | logfmt =>
          refine iff_of_true ?_ fun ⟨_, h, _, _, hjson, _⟩ => ?_
          · simp only [Logger.line, hformat]
            exact logfmtLine_congr hfields hmsg _ _ _ _
          · cases h
            rw [hformat] at hjson
            cases hjson
        | text =>
          refine iff_of_true ?_ fun ⟨_, h, _, _, hjson, _⟩ => ?_
          · simp only [Logger.line, hformat]
            exact textLine_congr hfields hmsg _ _ _ _
          · cases h
            rw [hformat] at hjson
            cases hjson

namespace Redaction

def rejectedKey (key : String) : String := "X-API-Key: " ++ key

lemma redactSecrets_rejectedKey :
    redactSecrets (rejectedKey "a") = "X-API-Key: <redacted>" ∧
      redactSecrets (rejectedKey "b") = "X-API-Key: <redacted>" := by decide +kernel

def writingIn (format : String) : Option Logger := some { cfg := { format := format } }

def atNoon : LogEnv := { format := fun _ => "12:00" }

lemma FieldsAlike.refl (f : Fields) : FieldsAlike f f := by
  intro k
  cases f.lookup k with
  | none => exact .none
  | some v => exact .some (.inl rfl)

end Redaction

theorem redaction_covers_iff_logfmt :
    (log (writingIn "logfmt") atNoon .warn (rejectedKey "a") ∅ []).written =
      (log (writingIn "logfmt") atNoon .warn (rejectedKey "b") ∅ []).written := by
  have hsame := redactSecrets_rejectedKey.1.trans redactSecrets_rejectedKey.2.symm
  refine (redaction_covers_iff _ _ _ _ _ _ _ _ hsame (FieldsAlike.refl ∅)).mpr ?_
  rintro ⟨l, hl, -, -, hjson, -⟩
  cases hl
  exact absurd hjson (by decide)

/-- The key of a rejected request is in the log if it is written in JSON. -/
theorem json_message_not_redacted :
    redactSecrets (rejectedKey "a") = redactSecrets (rejectedKey "b") ∧
      (log (writingIn "json") atNoon .warn (rejectedKey "a") ∅ []).written ≠
        (log (writingIn "json") atNoon .warn (rejectedKey "b") ∅ []).written := by
  refine ⟨redactSecrets_rejectedKey.1.trans redactSecrets_rejectedKey.2.symm, fun h => ?_⟩
  have hline : jsonLine "12:00" .warn (rejectedKey "a") "" ∅ = jsonLine "12:00" .warn (rejectedKey "b") "" ∅ :=
    Option.some.inj h
  have hmsg := (jsonLine_eq_iff (FieldsAlike.refl ∅) _ _ _).mp hline rfl fun k v hv => by cases hv
  exact absurd hmsg (by decide)

end MailBaby.Proofs
