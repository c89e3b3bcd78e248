import MailBaby.Auth

/-!
# Which requests are admitted

The places where HTTP requests and gRPC calls may carry the secret key, in the order in which they are
looked at, and where the two transports disagree.
-/

namespace MailBaby

open Lib

/-! ### The `Authorization` header -/

def IsBearer (auth token : String) : Prop :=
  ∃ scheme : String, ' ' ∉ scheme.toList ∧ equalFold scheme "Bearer" = true ∧ auth = scheme ++ " " ++ token

def IsBare (auth : String) : Prop := auth ≠ "" ∧ ' ' ∉ auth.toList

def IsOtherScheme (auth : String) : Prop :=
  ∃ scheme rest : String, ' ' ∉ scheme.toList ∧ equalFold scheme "Bearer" = false ∧
    auth = scheme ++ " " ++ rest

lemma authorization_cases (auth : String) :
    auth = "" ∨ (∃ token, IsBearer auth token) ∨ IsBare auth ∨ IsOtherScheme auth := by
  rcases exists_splitSpace auth with hbare | ⟨scheme, rest, hscheme, rfl⟩
  · by_cases hempty : auth = ""
    · exact .inl hempty
    · exact .inr (.inr (.inl ⟨hempty, hbare⟩))
  · cases hfold : equalFold scheme "Bearer" with
    | true => exact .inr (.inl ⟨rest, scheme, hscheme, hfold, rfl⟩)
    | false => exact .inr (.inr (.inr ⟨scheme, rest, hscheme, hfold, rfl⟩))

section Kinds

variable {auth token : String}

lemma IsBearer.splitSpace (h : IsBearer auth token) :
    auth ≠ "" ∧ ∃ scheme, Lib.splitSpace auth = (scheme, some token) ∧ equalFold scheme "Bearer" = true := by
  obtain ⟨scheme, hscheme, hfold, rfl⟩ := h
  exact ⟨append_space_ne_empty _ _, scheme, splitSpace_append hscheme token, hfold⟩

lemma IsOtherScheme.splitSpace (h : IsOtherScheme auth) :
    auth ≠ "" ∧ ∃ scheme rest, Lib.splitSpace auth = (scheme, some rest) ∧
      equalFold scheme "Bearer" = false := by
  obtain ⟨scheme, rest, hscheme, hfold, rfl⟩ := h
  exact ⟨append_space_ne_empty _ _, scheme, rest, splitSpace_append hscheme rest, hfold⟩

lemma IsBearer.unique {other : String} (h : IsBearer auth token) (h' : IsBearer auth other) : other = token := by
  obtain ⟨-, scheme, hsplit, -⟩ := h.splitSpace
  obtain ⟨-, scheme', hsplit', -⟩ := h'.splitSpace
  rw [hsplit] at hsplit'
  cases hsplit'
  rfl

lemma IsBearer.not_isBare (h : IsBearer auth token) : ¬IsBare auth := by
  intro hbare
  obtain ⟨-, scheme, hsplit, -⟩ := h.splitSpace
  rw [splitSpace_of_not_mem hbare.2] at hsplit
  cases hsplit

lemma IsBearer.not_isOtherScheme (h : IsBearer auth token) : ¬IsOtherScheme auth := by
  intro hother
  obtain ⟨-, scheme, hsplit, hfold⟩ := h.splitSpace
  obtain ⟨-, scheme', rest, hsplit', hfold'⟩ := hother.splitSpace
  rw [hsplit] at hsplit'
  cases hsplit'
  rw [hfold] at hfold'
  cases hfold'

lemma IsBare.not_isOtherScheme (h : IsBare auth) : ¬IsOtherScheme auth := by
  intro hother
  obtain ⟨-, scheme, rest, hsplit, -⟩ := hother.splitSpace
  rw [splitSpace_of_not_mem h.2] at hsplit
  cases hsplit

end Kinds

lemma headerToken_eq (custom fallback : String) :
    headerToken custom fallback = trimSpace (if custom ≠ "" then custom else fallback) := by
  have hempty : trimSpace "" = "" := by decide
  unfold headerToken
  by_cases hcustom : custom = ""
  · rw [if_neg (not_not_intro hcustom), if_neg (not_not_intro hcustom)]
    by_cases hfallback : fallback = ""
    · rw [if_neg (not_not_intro hfallback), hfallback, hempty]
    · rw [if_pos hfallback]
  · rw [if_pos hcustom, if_pos hcustom]

/-! ### HTTP -/

namespace Handler

def customHeader (cfg : AuthConfig) (r : HeaderLines) : String :=
  if cfg.headerName ≠ "" then httpGet r cfg.headerName else ""

section Token

variable {r : HeaderLines} (cfg : AuthConfig)

lemma extractToken_of_isBearer {token : String} (h : IsBearer (httpGet r "Authorization") token) :
    extractToken r cfg.headerName = trimSpace token := by
  obtain ⟨hne, scheme, hsplit, hfold⟩ := h.splitSpace
  unfold extractToken
  dsimp only
  rw [if_pos hne, hsplit]
  exact if_pos hfold

lemma extractToken_of_isBare (h : IsBare (httpGet r "Authorization")) :
    extractToken r cfg.headerName = trimSpace (httpGet r "Authorization") := by
  unfold extractToken
  dsimp only
  rw [if_pos h.1, splitSpace_of_not_mem h.2]
  exact if_pos h.1

lemma extractToken_of_isOtherScheme (h : IsOtherScheme (httpGet r "Authorization")) :
    extractToken r cfg.headerName = headerToken (customHeader cfg r) (httpGet r "X-API-Key") := by
  obtain ⟨hne, scheme, rest, hsplit, hfold⟩ := h.splitSpace
  unfold extractToken
  dsimp only
  rw [if_pos hne, hsplit]
  exact if_neg (by rw [hfold]; exact Bool.false_ne_true)

lemma extractToken_of_empty (h : httpGet r "Authorization" = "") :
    extractToken r cfg.headerName = headerToken (customHeader cfg r) (httpGet r "X-API-Key") := by
  unfold extractToken
  dsimp only
  exact if_neg (not_not_intro h)

end Token

lemma authMiddleware_eq_next_iff {cfg : AuthConfig} (henabled : cfg.enabled = true)
    {limiter : String → Option Duration} (hlimit : limiter cfg.secretKey = none) (r : HeaderLines) :
    authMiddleware cfg limiter r = .next ↔
      cfg.secretKey ≠ "" ∧ extractToken r cfg.headerName = cfg.secretKey := by
  unfold authMiddleware
  rw [henabled, if_neg (by decide)]
  dsimp only
  constructor
  · intro h
    split_ifs at h with hdenied
    obtain ⟨hne, heq⟩ := not_or.mp hdenied
    rw [not_ne_iff] at heq
    rw [heq] at hne
    exact ⟨hne, heq⟩
  · rintro ⟨hne, heq⟩
    rw [heq, if_neg (not_or.mpr ⟨hne, not_not_intro rfl⟩), hlimit]

end Handler

/-! ### gRPC -/

namespace Rpc

section Token

variable {md : HeaderLines} (cfg : AuthConfig)

def customHeader (md : HeaderLines) : String :=
  if cfg.headerName ≠ "" then metadataGet md (toLower cfg.headerName) else ""

lemma extractMetadataToken_of_isBearer {token : String} (h : IsBearer (metadataGet md "authorization") token) :
    extractMetadataToken md cfg.headerName = trimSpace token := by
  obtain ⟨hne, scheme, hsplit, hfold⟩ := h.splitSpace
  unfold extractMetadataToken
  dsimp only
  rw [if_pos hne, hsplit]
  exact if_pos hfold

lemma extractMetadataToken_of_isBare (h : IsBare (metadataGet md "authorization")) :
    extractMetadataToken md cfg.headerName = trimSpace (metadataGet md "authorization") := by
  unfold extractMetadataToken
  dsimp only
  rw [if_pos h.1, splitSpace_of_not_mem h.2]

lemma extractMetadataToken_of_isOtherScheme (h : IsOtherScheme (metadataGet md "authorization")) :
    extractMetadataToken md cfg.headerName = trimSpace (metadataGet md "authorization") := by
  obtain ⟨hne, scheme, rest, hsplit, hfold⟩ := h.splitSpace
  unfold extractMetadataToken
  dsimp only
  rw [if_pos hne, hsplit]
  exact if_neg (by rw [hfold]; exact Bool.false_ne_true)

lemma extractMetadataToken_of_empty (h : metadataGet md "authorization" = "") :
    extractMetadataToken md cfg.headerName = headerToken (customHeader cfg md) (metadataGet md "x-api-key") := by
  unfold extractMetadataToken
  dsimp only
  exact if_neg (not_not_intro h)

end Token

lemma validateMetadataAuth_eq_none_iff (cfg : AuthConfig) (md : HeaderLines) :
    validateMetadataAuth (some md) cfg = none ↔
      cfg.secretKey ≠ "" ∧ extractMetadataToken md cfg.headerName = cfg.secretKey := by
  unfold validateMetadataAuth
  dsimp only
  constructor
  · intro h
    split_ifs at h with hdenied
    obtain ⟨hne, heq⟩ := not_or.mp hdenied
    rw [not_ne_iff] at heq
    rw [heq] at hne
    exact ⟨hne, heq⟩
  · rintro ⟨hne, heq⟩
    rw [heq, if_neg (not_or.mpr ⟨hne, not_not_intro rfl⟩)]

lemma authInterceptor_iff {cfg : AuthConfig} (henabled : cfg.enabled = true) (md : Option HeaderLines) :
    authInterceptor cfg md true (fun _ => false) = true ↔ validateMetadataAuth md cfg = none := by
  unfold authInterceptor
  rw [henabled, if_neg (by decide)]
  cases validateMetadataAuth md cfg <;> simp

end Rpc

/-! ### The same headers over both transports -/

structure Credentials where
  authorization : Option String := none
  custom : Option String := none
  apiKey : Option String := none

namespace Credentials

def lines (c : Credentials) (cfg : AuthConfig) : HeaderLines :=
  (c.authorization.map fun v => ("Authorization", v)).toList ++
    (c.custom.map fun v => (cfg.headerName, v)).toList ++ (c.apiKey.map fun v => ("X-API-Key", v)).toList

lemma header_names : (isToken "Authorization" = true ∧ isToken "X-API-Key" = true) ∧
    (toLower "authorization" = toLower "Authorization" ∧ toLower "x-api-key" = toLower "X-API-Key") ∧
    toLower "Authorization" ≠ toLower "X-API-Key" := by
  decide +kernel

lemma isToken_authorization : isToken "Authorization" = true := header_names.1.1

lemma isToken_apiKey : isToken "X-API-Key" = true := header_names.1.2

lemma metadataGet_congr {a b : String} (h : toLower a = toLower b) (md : HeaderLines) :
    metadataGet md a = metadataGet md b := by
  rw [metadataGet, metadataGet, h]

lemma metadataGet_cons (l : String × String) (md : HeaderLines) (name : String) :
    metadataGet (l :: md) name = if toLower l.1 = toLower name then l.2 else metadataGet md name := by
  unfold metadataGet
  by_cases hl : toLower l.1 = toLower name
  · rw [List.find?_cons, decide_eq_true hl, if_pos hl]
    rfl
  · rw [List.find?_cons, decide_eq_false hl, if_neg hl]

variable {c : Credentials} {cfg : AuthConfig}

/-- A request can only carry headers whose names are tokens. -/
def Sendable (c : Credentials) (cfg : AuthConfig) : Prop := c.custom = none ∨ isToken cfg.headerName = true

lemma Sendable.isToken_of_mem_lines (h : c.Sendable cfg) : ∀ l ∈ c.lines cfg, isToken l.1 = true := by
  intro l hl
  simp only [lines, List.mem_append, Option.mem_toList, Option.map_eq_some_iff] at hl
  rcases hl with (⟨v, -, rfl⟩ | ⟨v, hv, rfl⟩) | ⟨v, -, rfl⟩
  · exact isToken_authorization
  · rcases h with hnone | htoken
    · rw [hnone] at hv
      cases hv
    · exact htoken
  · exact isToken_apiKey

lemma Sendable.metadataGet_authorization (h : c.Sendable cfg) :
    metadataGet (c.lines cfg) "authorization" = httpGet (c.lines cfg) "Authorization" := by
  rw [httpGet_eq_metadataGet h.isToken_of_mem_lines isToken_authorization]
  exact metadataGet_congr header_names.2.1.1 _

lemma Sendable.metadataGet_apiKey (h : c.Sendable cfg) :
    metadataGet (c.lines cfg) "x-api-key" = httpGet (c.lines cfg) "X-API-Key" := by
  rw [httpGet_eq_metadataGet h.isToken_of_mem_lines isToken_apiKey]
  exact metadataGet_congr header_names.2.1.2 _

lemma metadataGet_of_custom_none (hnone : c.custom = none) (name : String)
    (hauth : metadataGet (c.lines cfg) "Authorization" = "") :
    metadataGet (c.lines cfg) name = "" ∨
      metadataGet (c.lines cfg) name = metadataGet (c.lines cfg) "X-API-Key" := by
  obtain ⟨authorization, custom, apiKey⟩ := c
  subst hnone
  have hother := header_names.2.2
  have hlines : lines ⟨authorization, none, apiKey⟩ cfg =
      (authorization.map fun v => ("Authorization", v)).toList ++
        (apiKey.map fun v => ("X-API-Key", v)).toList := by
    simp [lines]
  rw [hlines] at hauth ⊢
  cases authorization with
  | none =>
    cases apiKey with
    | none => exact .inl rfl
    | some k =>
      simp only [Option.map_none, Option.toList_none, List.nil_append, Option.map_some, Option.toList_some,
        metadataGet_cons, if_true]
      split_ifs
      · exact .inr rfl
      · exact .inl rfl
  | some v =>
    simp only [Option.map_some, Option.toList_some, List.cons_append, List.nil_append, metadataGet_cons,
      if_true] at hauth
    cases apiKey with
    | none =>
      simp only [Option.map_some, Option.toList_some, List.cons_append, List.nil_append, Option.map_none,
        Option.toList_none, metadataGet_cons, hauth]
      split_ifs <;> exact .inl rfl
    | some k =>
      simp only [Option.map_some, Option.toList_some, List.cons_append, List.nil_append, metadataGet_cons,
        if_true, if_neg hother, hauth]
      split_ifs
      · exact .inl rfl
      · exact .inr rfl
      · exact .inl rfl

lemma Sendable.headerToken_eq (h : c.Sendable cfg) (hauth : httpGet (c.lines cfg) "Authorization" = "") :
    headerToken (Rpc.customHeader cfg (c.lines cfg)) (metadataGet (c.lines cfg) "x-api-key") =
      headerToken (Handler.customHeader cfg (c.lines cfg)) (httpGet (c.lines cfg) "X-API-Key") := by
  have hlines := h.isToken_of_mem_lines
  rw [h.metadataGet_apiKey]
  unfold Rpc.customHeader Handler.customHeader
  by_cases hempty : cfg.headerName = ""
  · rw [if_neg (not_not_intro hempty), if_neg (not_not_intro hempty)]
  · rw [if_pos hempty, if_pos hempty]
    cases htoken : isToken cfg.headerName with
    | true =>
      rw [httpGet_eq_metadataGet hlines htoken, metadataGet_congr (toLower_toLower htoken)]
    | false =>
      have hnone : c.custom = none := h.resolve_right (by rw [htoken]; exact Bool.false_ne_true)
      rw [httpGet_eq_metadataGet hlines isToken_authorization] at hauth
      rw [httpGet_of_not_isToken hlines htoken, httpGet_eq_metadataGet hlines isToken_apiKey]
      rcases metadataGet_of_custom_none hnone (toLower cfg.headerName) hauth with hget | hget
      · rw [hget]
      · rw [hget, MailBaby.headerToken_eq, MailBaby.headerToken_eq, ite_self, if_neg (not_not_intro rfl)]

theorem Sendable.extractToken_eq (h : c.Sendable cfg)
    (hscheme : ¬IsOtherScheme (httpGet (c.lines cfg) "Authorization")) :
    Handler.extractToken (c.lines cfg) cfg.headerName =
      Rpc.extractMetadataToken (c.lines cfg) cfg.headerName := by
  have hauth := h.metadataGet_authorization
  rcases authorization_cases (httpGet (c.lines cfg) "Authorization") with hkind | ⟨token, hkind⟩ | hkind | hkind
  · rw [Handler.extractToken_of_empty cfg hkind, Rpc.extractMetadataToken_of_empty cfg (hauth.trans hkind),
      h.headerToken_eq hkind]
  · rw [Handler.extractToken_of_isBearer cfg hkind,
      Rpc.extractMetadataToken_of_isBearer cfg (hauth.symm ▸ hkind)]
  · rw [Handler.extractToken_of_isBare cfg hkind, Rpc.extractMetadataToken_of_isBare cfg (hauth.symm ▸ hkind),
      hauth]
  · exact absurd hkind hscheme

end Credentials

end MailBaby

namespace MailBaby.Proofs

open Lib Handler

/-- A request is admitted exactly if the first header that can hold a credential holds the secret key,
up to white space around it: the `Authorization` header as a bearer token or on its own, then the
configured header, then `X-API-Key`. -/
theorem auth_middleware_next_iff {cfg : AuthConfig} (henabled : cfg.enabled = true)
    (hvalid : cfg.validate = none) (hkey : trimSpace cfg.secretKey = cfg.secretKey)
    {limiter : String → Option Duration} (hlimit : limiter cfg.secretKey = none) (r : HeaderLines) :
    authMiddleware cfg limiter r = .next ↔
      (∃ token, IsBearer (httpGet r "Authorization") token ∧ trimSpace token = trimSpace cfg.secretKey) ∨
      (IsBare (httpGet r "Authorization") ∧
        trimSpace (httpGet r "Authorization") = trimSpace cfg.secretKey) ∨
      ((httpGet r "Authorization" = "" ∨ IsOtherScheme (httpGet r "Authorization")) ∧
        (customHeader cfg r ≠ "" ∧ trimSpace (customHeader cfg r) = trimSpace cfg.secretKey ∨
          customHeader cfg r = "" ∧ trimSpace (httpGet r "X-API-Key") = trimSpace cfg.secretKey)) := by
  have hne : cfg.secretKey ≠ "" := by
    intro hempty
    have htrim : trimSpace cfg.secretKey = "" := hkey.trans hempty
    rw [AuthConfig.validate, if_pos ⟨henabled, htrim⟩] at hvalid
    cases hvalid
  have hheaders : headerToken (customHeader cfg r) (httpGet r "X-API-Key") = cfg.secretKey ↔
      customHeader cfg r ≠ "" ∧ trimSpace (customHeader cfg r) = cfg.secretKey ∨
        customHeader cfg r = "" ∧ trimSpace (httpGet r "X-API-Key") = cfg.secretKey := by
    rw [headerToken_eq]
    by_cases hcustom : customHeader cfg r = ""
    · simp [hcustom]
    · simp [hcustom]
  rw [authMiddleware_eq_next_iff henabled hlimit, hkey]
  rcases authorization_cases (httpGet r "Authorization") with hauth | ⟨token, hauth⟩ | hauth | hauth
  · have hbearer : ¬∃ token, IsBearer "" token ∧ trimSpace token = cfg.secretKey := by
      rintro ⟨token, hbearer, -⟩
      exact hbearer.splitSpace.1 rfl
    have hbare : ¬IsBare "" := fun h => h.1 rfl
    rw [extractToken_of_empty cfg hauth, hheaders, hauth]
    simp only [hbearer, hbare, false_and, false_or, true_or, true_and, hne, ne_eq, not_false_eq_true]
  · rw [extractToken_of_isBearer cfg hauth]
    have hempty : httpGet r "Authorization" ≠ "" := hauth.splitSpace.1
    simp only [hauth.not_isBare, hauth.not_isOtherScheme, hempty, false_and, or_false, or_self,
      hne, ne_eq, not_false_eq_true, true_and]
    constructor
    · intro htoken
      exact ⟨token, hauth, htoken⟩
    · rintro ⟨other, hother, htoken⟩
      rwa [hauth.unique hother] at htoken
  · have hbearer : ¬∃ token, IsBearer (httpGet r "Authorization") token ∧ trimSpace token = cfg.secretKey := by
      rintro ⟨token, hbearer, -⟩
      exact hbearer.not_isBare hauth
    rw [extractToken_of_isBare cfg hauth]
    simp only [hbearer, hauth, hauth.not_isOtherScheme, hauth.1, false_and, false_or, or_false, or_self, hne,
      ne_eq, not_false_eq_true, true_and]
  · have hbearer : ¬∃ token, IsBearer (httpGet r "Authorization") token ∧ trimSpace token = cfg.secretKey := by
      rintro ⟨token, hbearer, -⟩
      exact hbearer.not_isOtherScheme hauth
    have hbare : ¬IsBare (httpGet r "Authorization") := fun h => h.not_isOtherScheme hauth
    rw [extractToken_of_isOtherScheme cfg hauth, hheaders]
    simp only [hbearer, hbare, hauth, false_and, false_or, or_true, hne, ne_eq, not_false_eq_true, true_and]

def authConfig : AuthConfig := { enabled := true, secretKey := "secret", headerName := "X-Mail-Key" }

def unlimited (_ : String) : Option Duration := none

theorem auth_middleware_next_iff_lowercase :
    authConfig.validate = none ∧
      authMiddleware authConfig unlimited [("authorization", "bearer  secret")] = .next := by
  have hvalid : authConfig.validate = none := by decide +kernel
  refine ⟨hvalid, ?_⟩
  apply (auth_middleware_next_iff rfl hvalid (by decide +kernel) rfl _).mpr
  refine .inl ⟨" secret", ⟨"bearer", ?_, ?_, ?_⟩, ?_⟩ <;> decide +kernel

/-- A wrong bearer token hides the right key in the other headers, and white space around the key does
not matter. -/
theorem auth_headers_shadow :
    authConfig.validate = none ∧
    authMiddleware authConfig unlimited [("Authorization", "Bearer other"), ("X-API-Key", "secret")] =
      .deny 401 none ⟨401, "unauthorized", "invalid or missing authentication token / secret key"⟩ ∧
    authMiddleware authConfig unlimited [("X-API-Key", "\tsecret")] = .next := by
  decide +kernel

/-- The two transports disagree on a request only if its `Authorization` header has several words and
another scheme than Bearer, and that value as a whole and the other headers differ in whether they are
the secret key. -/
theorem http_rpc_auth_agree_iff (cfg : AuthConfig) {c : Credentials} (hc : c.Sendable cfg)
    {limiter : String → Option Duration} (hlimit : limiter cfg.secretKey = none) :
    ((authMiddleware cfg limiter (c.lines cfg) = .next ↔
        Rpc.authInterceptor cfg (some (c.lines cfg)) true (fun _ => false) = true) ↔
      (cfg.enabled = false ∨ ¬IsOtherScheme (httpGet (c.lines cfg) "Authorization") ∨
        (cfg.secretKey ≠ "" → (trimSpace (httpGet (c.lines cfg) "Authorization") = cfg.secretKey ↔
          headerToken (customHeader cfg (c.lines cfg)) (httpGet (c.lines cfg) "X-API-Key") =
            cfg.secretKey)))) ∧
    (cfg.enabled = true → (Rpc.authInterceptor cfg (some (c.lines cfg)) true (fun _ => false) = true ↔
      Rpc.validateMetadataAuth (some (c.lines cfg)) cfg = none)) := by
  refine ⟨?_, fun henabled => Rpc.authInterceptor_iff henabled _⟩
  cases henabled : cfg.enabled with
  | false =>
    have hhttp : authMiddleware cfg limiter (c.lines cfg) = .next := by
      unfold authMiddleware
      rw [henabled]
      rfl
    have hrpc : Rpc.authInterceptor cfg (some (c.lines cfg)) true (fun _ => false) = true := by
      unfold Rpc.authInterceptor
      rw [henabled]
      rfl
    exact iff_of_true (iff_of_true hhttp hrpc) (.inl rfl)
  | true =>
    rw [authMiddleware_eq_next_iff henabled hlimit, Rpc.authInterceptor_iff henabled,
      Rpc.validateMetadataAuth_eq_none_iff]
    by_cases hscheme : IsOtherScheme (httpGet (c.lines cfg) "Authorization")
    · have hauth := hc.metadataGet_authorization
      rw [extractToken_of_isOtherScheme cfg hscheme,
        Rpc.extractMetadataToken_of_isOtherScheme cfg (hauth.symm ▸ hscheme), hauth, and_congr_right_iff]
      simp only [hscheme, not_true_eq_false, false_or, Bool.true_eq_false]
      exact forall_congr' fun _ => Iff.comm
    · rw [hc.extractToken_eq hscheme]
      exact iff_of_true Iff.rfl (.inr (.inl hscheme))

def basicCredentials : Credentials := { authorization := some "Basic dTpw", apiKey := some "secret" }

def bearerCredentials : Credentials := { authorization := some "Bearer secret" }

theorem http_rpc_auth_agree_iff_bearer :
    bearerCredentials.Sendable authConfig ∧
    (authMiddleware authConfig unlimited (bearerCredentials.lines authConfig) = .next ↔
      Rpc.authInterceptor authConfig (some (bearerCredentials.lines authConfig)) true (fun _ => false) =
        true) := by
  have hc : bearerCredentials.Sendable authConfig := .inl rfl
  have hbearer : IsBearer (httpGet (bearerCredentials.lines authConfig) "Authorization") "secret" := by
    refine ⟨"Bearer", ?_, ?_, ?_⟩ <;> decide +kernel
  exact ⟨hc, (http_rpc_auth_agree_iff authConfig hc rfl).1.mpr (.inr (.inl hbearer.not_isOtherScheme))⟩

/-- A key in `X-API-Key` next to basic credentials: the HTTP request is admitted, the gRPC call is not. -/
theorem basic_scheme_disagrees :
    authMiddleware authConfig unlimited (basicCredentials.lines authConfig) = .next ∧
    Rpc.validateMetadataAuth (some (basicCredentials.lines authConfig)) authConfig =
      some ⟨.unauthenticated, "rpc: invalid or missing authentication token / secret key"⟩ := by
  decide +kernel

end MailBaby.Proofs
