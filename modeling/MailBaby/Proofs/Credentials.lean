import MailBaby.Lib.Fold
import MailBaby.Proofs.Accounts
import MailBaby.Sender.Client

/-!
# Credentials go over TLS

Whatever the configuration and the server are, `Dial` sends an AUTH command under TLS or to the local host
only.
-/

namespace MailBaby.Sender.Client

open Lib Smtp

variable {env : DialEnv} {cfg : SmtpAccountConfig} {ok : Issued → Prop} {s : Session}

def AllIssued (ok : Issued → Prop) (s : Session) : Prop := ∀ i ∈ s.issued, ok i

/-! ### One step -/

lemma allIssued_snoc {command : Command} (hs : AllIssued ok s) (hok : ok ⟨command, s.tls⟩) :
    AllIssued ok { s with issued := s.issued ++ [⟨command, s.tls⟩] } := by
  intro i hi
  rcases List.mem_append.mp hi with hi | hi
  · exact hs i hi
  · rw [List.mem_singleton.mp hi]
    exact hok

lemma refuse_leaves {text : String} {Q : Unit → Session → Prop} (hs : AllIssued ok s)
    (hclose : ok ⟨.close, s.tls⟩) : Leaves (refuse text s) Q (AllIssued ok) :=
  allIssued_snoc hs hclose

lemma issue_leaves (command : Command) (result : Option GoError) (closes : Bool) (text : String)
    (hs : AllIssued ok s) (hok : ok ⟨command, s.tls⟩) (hclose : ok ⟨.close, s.tls⟩) :
    Leaves (issue command result closes text s) (fun _ t => AllIssued ok t ∧ t.tls = s.tls) (AllIssued ok) := by
  have hlogged := allIssued_snoc hs hok
  cases result with
  | none => exact ⟨hlogged, rfl⟩
  | some err =>
    cases closes with
    | false => exact hlogged
    | true => exact allIssued_snoc hlogged hclose

/-! ### What `Dial` issues -/

/-- A command that `Dial` may issue: an AUTH is protected, and a handshake is made with the configuration of
the account, unless it asks for no encryption. -/
def Proper (cfg : SmtpAccountConfig) (i : Issued) : Prop :=
  match i.command with
  | .auth _ _ => i.tls = true ∨ isLocalhost cfg.host = true
  | .handshake config => config = tlsConfig cfg ∧ upperWord (encryption cfg) ≠ "NONE"
  | _ => True

def NeedsTLS (cfg : SmtpAccountConfig) : Prop :=
  upperWord (encryption cfg) ≠ "NONE" ∧ (inferred cfg = false ∨ hasCredentials cfg = true)

lemma handshake_leaves (closes : Bool) (text : String) (hs : AllIssued (Proper cfg) s)
    (henc : upperWord (encryption cfg) ≠ "NONE") :
    Leaves (handshake env cfg closes text s) (fun _ t => AllIssued (Proper cfg) t ∧ t.tls = true)
      (AllIssued (Proper cfg)) := by
  apply Leaves.bind (issue_leaves (.handshake _) _ _ _ hs ⟨rfl, henc⟩ trivial)
  rintro - t ⟨ht, -⟩
  exact ⟨ht, rfl⟩

lemma newClient_leaves (hs : AllIssued (Proper cfg) s) :
    Leaves (newClient env cfg s) (fun _ t => AllIssued (Proper cfg) t ∧ t.tls = s.tls)
      (AllIssued (Proper cfg)) := by
  apply Leaves.bind (issue_leaves .greeting _ _ _ hs trivial trivial)
  rintro - t ⟨ht, htls⟩
  apply (issue_leaves (.hello _) _ _ _ ht trivial trivial).imp
  · rintro - u ⟨hu, hutls⟩
    exact ⟨hu, hutls.trans htls⟩
  · exact fun _ h => h

lemma dialPlain_leaves (hs : AllIssued (Proper cfg) s) :
    Leaves (dialPlain env cfg s) (fun _ t => AllIssued (Proper cfg) t) (AllIssued (Proper cfg)) := by
  apply Leaves.bind (issue_leaves (.dial _ _) _ _ _ hs trivial trivial)
  rintro - t ⟨ht, -⟩
  exact (newClient_leaves ht).imp (fun _ _ h => h.1) fun _ h => h

lemma connect_leaves (hs : AllIssued (Proper cfg) s) :
    Leaves (connect env cfg s) (fun _ t => AllIssued (Proper cfg) t ∧ (NeedsTLS cfg → t.tls = true))
      (AllIssued (Proper cfg)) := by
  unfold connect
  -- the cases are about the word alone, which nothing has to evaluate
  generalize hword : upperWord (encryption cfg) = word
  split_ifs with hssl hstarttls hext hexplicit hcred hnone
  · have henc : upperWord (encryption cfg) ≠ "NONE" := by
      rcases hssl with rfl | rfl <;> rw [hword] <;> decide
    apply Leaves.bind (issue_leaves (.dial _ _) _ _ _ hs trivial trivial)
    rintro - t ⟨ht, -⟩
    apply Leaves.bind (handshake_leaves _ _ ht henc)
    rintro - u ⟨hu, hutls⟩
    apply (newClient_leaves hu).imp
    · rintro - v ⟨hv, hvtls⟩
      exact ⟨hv, fun _ => hvtls.trans hutls⟩
    · exact fun _ h => h
  · have henc : upperWord (encryption cfg) ≠ "NONE" := by
      rw [hword, hstarttls]
      decide
    apply Leaves.bind (dialPlain_leaves hs)
    intro _ t ht
    apply Leaves.bind (issue_leaves .startTLS _ _ _ ht trivial trivial)
    rintro - u ⟨hu, -⟩
    apply Leaves.bind (handshake_leaves _ _ hu henc)
    rintro - v ⟨hv, hvtls⟩
    apply (issue_leaves (.hello _) _ _ _ hv trivial trivial).imp
    · rintro - x ⟨hx, hxtls⟩
      exact ⟨hx, fun _ => hxtls.trans hvtls⟩
    · exact fun _ h => h
  · apply Leaves.bind (dialPlain_leaves hs)
    intro _ t ht
    exact refuse_leaves ht trivial
  · apply Leaves.bind (dialPlain_leaves hs)
    intro _ t ht
    exact refuse_leaves ht trivial
  · -- without credentials an inferred encryption may be given up
    apply Leaves.bind (dialPlain_leaves hs)
    intro _ t ht
    refine ⟨ht, ?_⟩
    rintro ⟨-, h | h⟩
    · rw [h] at hexplicit
      exact absurd rfl hexplicit
    · exact absurd h hcred
  · apply (dialPlain_leaves hs).imp
    · intro _ t ht
      exact ⟨ht, fun h => absurd (hword.trans hnone) h.1⟩
    · exact fun _ h => h
  · exact hs

lemma clientAuth_leaves (auth : SASL) (hs : AllIssued (Proper cfg) s)
    (hsafe : s.tls = true ∨ isLocalhost cfg.host = true) :
    Leaves (clientAuth env cfg auth s) (fun _ t => AllIssued (Proper cfg) t ∧ t.tls = s.tls)
      (AllIssued (Proper cfg)) := by
  rw [clientAuth, get_bind_apply]
  cases auth.start ⟨cfg.host, s.tls⟩ with
  | error err => exact allIssued_snoc (allIssued_snoc hs trivial) trivial
  | ok r => exact issue_leaves (.auth _ _) _ _ _ hs hsafe trivial

lemma buildAuth_none (username password host : String) : buildAuth "None" username password host = none := by
  unfold buildAuth
  split
  · rfl
  · rfl

lemma guardPlaintext_leaves (hs : AllIssued (Proper cfg) s) (hnone : cfg.authType ≠ "None") :
    Leaves (guardPlaintext cfg s) (fun _ t => t = s ∧ (s.tls = true ∨ isLocalhost cfg.host = true))
      (AllIssued (Proper cfg)) := by
  rw [guardPlaintext, get_bind_apply]
  split_ifs with hplain hlogin
  · exact refuse_leaves hs trivial
  · exact refuse_leaves hs trivial
  · refine ⟨rfl, ?_⟩
    cases htls : s.tls with
    | true => exact Or.inl rfl
    | false =>
      rw [htls] at hplain
      exact Or.inr (by simpa using hplain)

lemma authenticate_leaves (hs : AllIssued (Proper cfg) s) :
    Leaves (authenticate env cfg s) (fun _ t => AllIssued (Proper cfg) t ∧ t.tls = s.tls)
      (AllIssued (Proper cfg)) := by
  unfold authenticate
  split_ifs with hcred
  · cases hauth : buildAuth cfg.authType cfg.username cfg.password cfg.host with
    | none => exact ⟨hs, rfl⟩
    | some auth =>
      have hnone : cfg.authType ≠ "None" := by
        intro h
        rw [h, buildAuth_none] at hauth
        cases hauth
      apply Leaves.bind (guardPlaintext_leaves hs hnone)
      rintro - t ⟨rfl, hsafe⟩
      exact clientAuth_leaves auth hs hsafe
  · exact ⟨hs, rfl⟩

lemma dial_leaves (env : DialEnv) (cfg : SmtpAccountConfig) :
    Leaves (dial env cfg {}) (fun _ t => AllIssued (Proper cfg) t ∧ (NeedsTLS cfg → t.tls = true))
      (AllIssued (Proper cfg)) := by
  have hstart : AllIssued (Proper cfg) {} := List.forall_mem_nil _
  have hconnect := @connect_leaves env cfg {} hstart
  unfold dial
  generalize connect env cfg = connected at hconnect
  apply Leaves.bind hconnect
  rintro - t ⟨ht, htls⟩
  apply Leaves.bind (authenticate_leaves ht)
  rintro - u ⟨hu, hutls⟩
  exact ⟨hu, fun h => hutls.trans (htls h)⟩

/-! ### Spellings -/

lemma upperWord_of_none {word : String} (h : sameFold word "None" = true) : upperWord word = "NONE" :=
  upperWord_of_sameFold (by decide) h

lemma upperWord_of_auto {word : String} (h : sameFold word "Auto" = true) : upperWord word = "AUTO" :=
  upperWord_of_sameFold (by decide) h

lemma inferred_eq_false (hempty : upperWord cfg.encryption ≠ "") (hauto : upperWord cfg.encryption ≠ "AUTO") :
    inferred cfg = false := by
  rw [inferred, Bool.or_eq_false_iff]
  constructor
  · apply decide_eq_false
    intro h
    rw [h] at hempty
    exact hempty rfl
  · by_contra h
    exact hauto (upperWord_of_auto (by simpa using h))

lemma encryption_of_explicit (h : inferred cfg = false) : encryption cfg = cfg.encryption := by
  rw [encryption, h]
  rfl

lemma encryption_of_inferred (h : inferred cfg = true) : upperWord (encryption cfg) ≠ "NONE" := by
  rw [encryption, if_pos h]
  split <;> decide

lemma needsTLS_of_explicit (h : upperWord cfg.encryption ∈ ["STARTTLS", "SSL", "TLS"]) : NeedsTLS cfg := by
  have hother : ∀ word, word ∉ ["STARTTLS", "SSL", "TLS"] → upperWord cfg.encryption ≠ word := by
    rintro word hword rfl
    exact hword h
  have hexplicit := inferred_eq_false (hother "" (by decide)) (hother "AUTO" (by decide))
  refine ⟨?_, Or.inl hexplicit⟩
  rw [encryption_of_explicit hexplicit]
  exact hother "NONE" (by decide)

lemma sameFold_of_validate {parseAddress : String → Except GoError String} {name : String}
    (h : cfg.validate parseAddress name = none) (hskip : cfg.insecureSkipVerify = true) :
    sameFold cfg.encryption "None" = true ∨ sameFold cfg.encryption "" = true := by
  unfold SmtpAccountConfig.validate at h
  extract_lets start at h
  repeat' split at h
  any_goals cases h
  rename_i hguard
  by_contra hnot
  rw [not_or, Bool.not_eq_true, Bool.not_eq_true] at hnot
  apply hguard
  rw [hnot.1, hnot.2]
  exact ⟨hskip, rfl, rfl⟩

lemma entry_of_validate {parseAddress : String → Except GoError String} {order : RangeOrder AccountEntry}
    {c c' : SmtpConfig} (h : c.validate parseAddress order = (none, c')) {e : AccountEntry}
    (he : e ∈ c'.entries) : e.2.validate parseAddress e.1 = none ∧ e.2.encryption ≠ "" := by
  obtain ⟨rfl, hall⟩ := SmtpConfig.entries_of_validate h
  refine ⟨hall e he, ?_⟩
  obtain ⟨e', -, rfl⟩ := List.mem_map.mp he
  change (if e'.2.encryption = "" then "Auto" else e'.2.encryption) ≠ ""
  split_ifs with hempty
  · decide
  · exact hempty

lemma eq_empty_of_sameFold {word : String} (h : sameFold word "" = true) : word = "" := by
  have hfold : word.toList.map foldClass = [] := of_decide_eq_true h
  rw [← String.toList_inj, List.map_eq_nil_iff.mp hfold]
  rfl

def Command.isAuth : Command → Bool
  | auth _ _ => true
  | _ => false

def relay : SmtpAccountConfig :=
  { host := "smtp.example.com", port := 587, username := "app", password := "secret" }

end MailBaby.Sender.Client

namespace MailBaby.Proofs

open Lib Smtp Sender.Client

/-- For every account and every server: an AUTH command is protected; an explicit encryption is kept, and an
inferred one for the sake of credentials; and an account of a configuration that was accepted verifies the
certificate in every handshake. -/
theorem dial_protects_credentials (env : DialEnv) (cfg : SmtpAccountConfig) :
    (∀ i ∈ (finalState (dial env cfg {})).issued, ∀ mechanism initial, i.command = .auth mechanism initial →
      i.tls = true ∨ cfg.host ∈ ["localhost", "127.0.0.1", "::1"]) ∧
    (upperWord cfg.encryption ∈ ["STARTTLS", "SSL", "TLS"] →
      ∀ client s, dial env cfg {} = .ok client s → s.tls = true) ∧
    (cfg.encryption = "" ∨ sameFold cfg.encryption "Auto" = true → cfg.username ≠ "" ∨ cfg.password ≠ "" →
      ∀ client s, dial env cfg {} = .ok client s → s.tls = true) ∧
    (∀ parseAddress order c c' name, SmtpConfig.validate parseAddress order c = (none, c') →
      ⟨name, cfg⟩ ∈ c'.entries →
      ∀ i ∈ (finalState (dial env cfg {})).issued, ∀ config, i.command = .handshake config →
        config.insecureSkipVerify = false) := by
  have hdial := dial_leaves env cfg
  have hissued : AllIssued (Proper cfg) (finalState (dial env cfg {})) := by
    apply Leaves.finalState (I := AllIssued (Proper cfg))
    exact hdial.imp (fun _ _ h => h.1) fun _ h => h
  refine ⟨?_, ?_, ?_, ?_⟩
  · intro i hi mechanism initial hcommand
    have hproper := hissued i hi
    rw [Proper, hcommand] at hproper
    apply hproper.imp id
    intro hlocal
    simpa [isLocalhost, or_assoc] using hlocal
  · intro henc client s hok
    exact (hdial.of_ok hok).2 (needsTLS_of_explicit henc)
  · intro henc hcred client s hok
    have hinferred : inferred cfg = true := by
      rw [inferred, Bool.or_eq_true, decide_eq_true_eq]
      exact henc
    have hcred' : hasCredentials cfg = true := by
      rw [hasCredentials, Bool.or_eq_true, decide_eq_true_eq, decide_eq_true_eq]
      exact hcred
    exact (hdial.of_ok hok).2 ⟨encryption_of_inferred hinferred, Or.inr hcred'⟩
  · intro parseAddress order c c' name hvalid he i hi config hcommand
    obtain ⟨hvalid, hne⟩ := entry_of_validate hvalid he
    have hproper := hissued i hi
    rw [Proper, hcommand] at hproper
    obtain ⟨rfl, henc⟩ := hproper
    -- skipping the verification takes an encryption for which there is no handshake
    by_contra hverify
    have hskip : cfg.insecureSkipVerify = true := Bool.not_eq_false _ ▸ hverify
    rcases sameFold_of_validate hvalid hskip with hnone | hempty
    · have hupper := upperWord_of_none hnone
      apply henc
      rw [encryption_of_explicit (inferred_eq_false _ _), hupper]
      · rw [hupper]
        decide
      · rw [hupper]
        decide
    · exact hne (eq_empty_of_sameFold hempty)

theorem dial_protects_credentials_relay :
    ((finalState (dial { extension := true } relay {})).issued.any fun i => i.command.isAuth) = true ∧
      ∀ i ∈ (finalState (dial { extension := true } relay {})).issued, ∀ mechanism initial,
        i.command = .auth mechanism initial → i.tls = true ∨ relay.host ∈ ["localhost", "127.0.0.1", "::1"] :=
  ⟨by decide +kernel, (dial_protects_credentials _ _).1⟩

end MailBaby.Proofs
