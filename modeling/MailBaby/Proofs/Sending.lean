import MailBaby.Lib.AddressSyntax
import MailBaby.Proofs.Mime
import MailBaby.Sender.Account

/-!
# Sending one email

What `accountSender.Send` does with an email that was validated: which address it hands to the SMTP client
as the sender, and when it dereferences a nil pointer.
-/

namespace MailBaby.Sender

open Lib Lib.Mime Smtp

/-! ### Runs of `Send` -/

namespace AccountSender

variable {a : AccountSender} {codec : Codec} {email : Email} {env : SendEnv} {s : AccountState}

lemma send_of_refused {err : GoError} (h : a.refuses codec env email = some err) :
    a.send codec (some email) env s = fail err env s := by
  rw [send, Eff.bind_of_ok (Eff.query_apply _ _ _), h]

lemma send_of_accepted (h : a.refuses codec env email = none) :
    a.send codec (some email) env s =
      a.build codec email (buildMIME env.mime email a.cfg.sender a.cfg.fromName) env s := by
  rw [send, Eff.bind_of_ok (Eff.query_apply _ _ _), h]
  exact Eff.bind_of_ok (Eff.query_apply _ _ _) _

lemma fail_apply (err : GoError) (env : SendEnv) (s : AccountState) :
    fail err env s = (.ok (some err), { s with totalFailed := s.totalFailed + 1 }) := rfl

lemma exists_transmit (call : SmtpCall) (env : SendEnv) (s : AccountState) :
    ∃ result t, transmit call env s = (.ok result, t) ∧ t.calls = s.calls ++ [call] := by
  rw [transmit, Eff.bind_of_ok (Eff.update_apply _ _ _), Eff.bind_of_ok (Eff.query_apply _ _ _)]
  cases env.deliver with
  | none => exact ⟨_, _, rfl, rfl⟩
  | some err => exact ⟨_, _, rfl, rfl⟩

lemma exists_handOver (a : AccountSender) (codec : Codec) (email : Email) (message : Text) (env : SendEnv)
    (s : AccountState) :
    ∃ result t, a.handOver codec email message env s = (.ok result, t) ∧
      (t.calls = s.calls ∨
        t.calls = s.calls ++ [⟨a.envelopeFrom email, allRecipients codec email, message⟩]) := by
  rw [handOver, Eff.bind_of_ok (Eff.query_apply _ _ _)]
  cases env.acquire with
  | some err => exact ⟨_, _, rfl, .inl rfl⟩
  | none =>
    obtain ⟨result, t, hrun, hcalls⟩ := exists_transmit
      ⟨a.envelopeFrom email, allRecipients codec email, message⟩ env s
    exact ⟨result, t, hrun, .inr hcalls⟩

lemma calls_of_send (a : AccountSender) (codec : Codec) (email : Email) (env : SendEnv) (s : AccountState) :
    (a.send codec (some email) env s).2.calls = s.calls ∨
      ∃ message, (a.send codec (some email) env s).2.calls =
        s.calls ++ [⟨a.envelopeFrom email, allRecipients codec email, message⟩] := by
  cases hrefuses : a.refuses codec env email with
  | some err =>
    rw [send_of_refused hrefuses]
    exact .inl rfl
  | none =>
    rw [send_of_accepted hrefuses]
    cases buildMIME env.mime email a.cfg.sender a.cfg.fromName with
    | panics => exact .inl rfl
    | err err => exact .inl rfl
    | ok message =>
      obtain ⟨result, t, hrun, hcalls⟩ := exists_handOver a codec email message env s
      rw [build, hrun]
      exact hcalls.imp id fun h => ⟨message, h⟩

lemma send_delivers {message : Text} (hrefuses : a.refuses codec env email = none)
    (hbuild : buildMIME env.mime email a.cfg.sender a.cfg.fromName = .ok message) (hacquire : env.acquire = none) :
    (a.send codec (some email) env s).2.calls =
      s.calls ++ [⟨a.envelopeFrom email, allRecipients codec email, message⟩] := by
  rw [send_of_accepted hrefuses, hbuild, build, handOver, Eff.bind_of_ok (Eff.query_apply _ _ _), hacquire]
  obtain ⟨result, t, hrun, hcalls⟩ := exists_transmit
    ⟨a.envelopeFrom email, allRecipients codec email, message⟩ env s
  dsimp only
  rw [hrun]
  exact hcalls

lemma send_panics_iff (a : AccountSender) (codec : Codec) (email : Email) (env : SendEnv) (s : AccountState) :
    (∃ v, (a.send codec (some email) env s).1 = .error v) ↔
      a.refuses codec env email = none ∧ buildMIME env.mime email a.cfg.sender a.cfg.fromName = .panics := by
  cases hrefuses : a.refuses codec env email with
  | some err =>
    rw [send_of_refused hrefuses, fail_apply]
    simp
  | none =>
    rw [send_of_accepted hrefuses]
    cases buildMIME env.mime email a.cfg.sender a.cfg.fromName with
    | panics => simp [build, Eff.panic]
    | err err => simp [build, fail_apply]
    | ok message =>
      obtain ⟨result, t, hrun, -⟩ := exists_handOver a codec email message env s
      rw [build, hrun]
      simp

end AccountSender

/-! ### The sender of the envelope -/

section Envelope

variable {codec : Codec} {parseAddress : String → Except GoError String}

lemma exists_address_of_ok (hreads : ReadsAddress parseAddress) {s address : String}
    (h : parseAddress s = .ok address) : Address.bareAddress s = some address := by
  rw [← hreads s, h]
  rfl

lemma exists_address_of_validate (hreads : ReadsAddress parseAddress) {cfg : SmtpAccountConfig} {name : String}
    (hcfg : cfg.validate parseAddress name = none) : ∃ address, Address.bareAddress cfg.sender = some address := by
  cases hparse : parseAddress cfg.sender with
  | ok address => exact ⟨address, exists_address_of_ok hreads hparse⟩
  | error err =>
    unfold SmtpAccountConfig.validate at hcfg
    dsimp only at hcfg
    rw [hparse] at hcfg
    split_ifs at hcfg

lemma exists_address_of_validateFrom (hreads : ReadsAddress codec.parseAddress) {email : Email}
    (hemail : email.validate codec = none) (hfrom : email.sender ≠ "") :
    ∃ address, Address.bareAddress email.sender = some address := by
  cases hparse : codec.parseAddress email.sender with
  | ok address => exact ⟨address, exists_address_of_ok hreads hparse⟩
  | error err =>
    unfold Email.validate Email.validateFrom at hemail
    rw [if_neg hfrom, hparse] at hemail
    split_ifs at hemail
    cases hemail

lemma envelopeFrom_newAccountSender (name : String) (cfg : SmtpAccountConfig) (email : Email) :
    (newAccountSender name cfg).envelopeFrom email = if email.sender = "" then cfg.sender else email.sender := rfl

lemma exists_envelope_address (hreads : ReadsAddress codec.parseAddress) {cfg : SmtpAccountConfig}
    {accountName : String} (hcfg : cfg.validate codec.parseAddress accountName = none) {email : Email}
    (hemail : email.validate codec = none) (name : String) :
    ∃ address, Address.bareAddress ((newAccountSender name cfg).envelopeFrom email) = some address := by
  rw [envelopeFrom_newAccountSender]
  split_ifs with hfrom
  · exact exists_address_of_validate hreads hcfg
  · exact exists_address_of_validateFrom hreads hemail hfrom

end Envelope

/-! ### Nil attachments -/

lemma writeCustomHeaders_error_iff {entries : List (Sigma fun _ : String => String)} (buf : Text) :
    (∃ err, writeCustomHeaders entries buf = .error err) ↔
      ∃ entry ∈ entries, validHeaderFieldName entry.1.toList = false := by
  induction entries generalizing buf with
  | nil => simp [writeCustomHeaders]
  | cons entry entries ih =>
    have hcons : (∃ e ∈ entry :: entries, validHeaderFieldName e.1.toList = false) ↔
        validHeaderFieldName entry.1.toList = false ∨ ∃ e ∈ entries, validHeaderFieldName e.1.toList = false := by
      simp
    rw [writeCustomHeaders, hcons]
    split_ifs with hname hreserved
    · simp [hname]
    · rw [ih, or_iff_right hname]
    · rw [ih, or_iff_right hname]

lemma splitAttachments_eq_none_iff {atts : List (Option Attachment)} : splitAttachments atts = none ↔ none ∈ atts := by
  induction atts with
  | nil => simp [splitAttachments]
  | cons att atts ih =>
    cases att with
    | none => simp [splitAttachments]
    | some att => simp [splitAttachments, ih]

/-- No attachment is nil, or the message is given up at a custom header before they are read. -/
def AttachmentsSafe (email : Email) : Prop :=
  none ∉ email.attachments ∨ ∃ key ∈ email.headers.keys, validHeaderFieldName key.toList = false

lemma buildMIME_panics_iff (env : MIMEEnv) (email : Email) (defaultFrom defaultFromName : String) :
    buildMIME env email defaultFrom defaultFromName = .panics ↔ ¬AttachmentsSafe email := by
  have herror : (∃ err, writeHeaders env email defaultFrom defaultFromName = .error err) ↔
      ∃ key ∈ email.headers.keys, validHeaderFieldName key.toList = false := by
    rw [writeHeaders, writeCustomHeaders_error_iff]
    simp [AList.keys, List.keys]
  rw [AttachmentsSafe, ← herror, not_or, not_not, ← splitAttachments_eq_none_iff, buildMIME]
  cases hheaders : writeHeaders env email defaultFrom defaultFromName with
  | error err => simp
  | ok buf =>
    cases hsplit : splitAttachments email.attachments with
    | none => simp
    | some split => simp

lemma isSome_mapM_toOption {α : Type} (items : List (Except String α)) :
    (items.mapM Except.toOption).isSome = true ↔ ∀ item ∈ items, ∃ a, item = .ok a := by
  induction items with
  | nil => simp
  | cons item items ih =>
    rw [List.mapM_cons, List.forall_mem_cons, ← ih]
    cases item with
    | error v => simp [Except.toOption]
    | ok a => cases items.mapM Except.toOption <;> simp [Except.toOption]

lemma exists_send_of_safe (a : AccountSender) (codec : Codec) {email : Email} (hsafe : AttachmentsSafe email)
    (env : SendEnv) (s : AccountState) : ∃ result, (a.send codec (some email) env s).1 = .ok result := by
  cases hresult : (a.send codec (some email) env s).1 with
  | ok result => exact ⟨result, rfl⟩
  | error v =>
    have hpanics := ((a.send_panics_iff codec email env s).mp ⟨v, hresult⟩).2
    exact absurd hsafe ((buildMIME_panics_iff _ _ _ _).mp hpanics)

lemma MultiAccountSender.exists_batchItem_of_safe (m : MultiAccountSender) (codec : Codec) {email : Email}
    (hsafe : AttachmentsSafe email) (env : BatchEnv) :
    ∃ result, m.batchItem codec env (some email) = .ok result := by
  unfold batchItem
  cases env.ctxErr with
  | some err => exact ⟨_, rfl⟩
  | none =>
    dsimp only
    rw [send]
    cases m.accounts.lookup (target email.account) with
    | none => exact ⟨_, rfl⟩
    | some acc => exact exists_send_of_safe acc codec hsafe env.send {}

/-- Emails that are read from a payload and pass the validation. -/
def FromPayload (codec : Codec) (email : Email) : Prop :=
  ∃ data, Email.fromJSON data = some email ∧ email.validate codec = none

section Crash

variable {codec : Codec} {email : Email}

lemma addRecipient_ne_nil {addr : String} (hclean : cleanAddress codec addr ≠ "") (result : List String) :
    addRecipient codec result addr ≠ [] := by
  unfold addRecipient
  dsimp only
  split_ifs with hskip
  · rintro rfl
    simp [hclean] at hskip
  · exact List.append_ne_nil_of_right_ne_nil _ (List.cons_ne_nil _ _)

lemma foldl_addRecipient_ne_nil {addrs result : List String} (h : result ≠ []) :
    addrs.foldl (addRecipient codec) result ≠ [] := by
  induction addrs generalizing result with
  | nil => exact h
  | cons addr addrs ih =>
    rw [List.foldl_cons]
    apply ih
    unfold addRecipient
    dsimp only
    split_ifs
    · exact h
    · exact List.append_ne_nil_of_right_ne_nil _ (List.cons_ne_nil _ _)

lemma cleanAddress_ne_empty (hreads : ReadsAddress codec.parseAddress) {addr address : String}
    (h : codec.parseAddress addr = .ok address) : cleanAddress codec addr ≠ "" := by
  have hread := exists_address_of_ok hreads h
  obtain ⟨mailbox, hparse, rfl⟩ := Option.map_eq_some_iff.mp hread
  have hat : '@' ∈ (String.ofList mailbox.address).toList := by
    rw [String.toList_ofList]
    exact Address.at_mem_of_parseSingleAddress hparse
  unfold cleanAddress
  rw [h]
  exact trimSpace_ne_empty hat (by decide)

lemma recipients_of_validate (hemail : email.validate codec = none) :
    email.toAddrs ++ email.cc ++ email.bcc ≠ [] ∧
      ∀ addr ∈ email.toAddrs ++ email.cc ++ email.bcc, ∃ address, codec.parseAddress addr = .ok address := by
  have hlist : ∀ {list : List String} {field : String}, Email.validateAddresses codec list field = none →
      ∀ addr ∈ list, ∃ address, codec.parseAddress addr = .ok address := by
    intro list field hnone addr hmem
    have hone := List.findSome?_eq_none_iff.mp hnone addr hmem
    cases hparse : codec.parseAddress addr with
    | ok address => exact ⟨address, rfl⟩
    | error err =>
      rw [hparse] at hone
      cases hone
  unfold Email.validate at hemail
  split_ifs at hemail with hempty
  simp only [Option.orElse_eq_orElse, Option.orElse_eq_or, Option.or_eq_none_iff] at hemail
  obtain ⟨-, hto, hcc, hbcc, -⟩ := hemail
  constructor
  · intro hnil
    simp only [List.append_eq_nil_iff] at hnil
    exact hempty ⟨hnil.1.1, hnil.1.2, hnil.2⟩
  · intro addr hmem
    rcases List.mem_append.mp hmem with hmem | hmem
    · rcases List.mem_append.mp hmem with hmem | hmem
      · exact hlist hto addr hmem
      · exact hlist hcc addr hmem
    · exact hlist hbcc addr hmem

lemma exists_recipient_of_validate (hemail : email.validate codec = none) :
    ∃ addr rest, email.toAddrs ++ email.cc ++ email.bcc = addr :: rest ∧
      ∃ address, codec.parseAddress addr = .ok address := by
  obtain ⟨hne, hall⟩ := recipients_of_validate hemail
  obtain ⟨addr, rest, hrecipients⟩ := List.exists_cons_of_ne_nil hne
  exact ⟨addr, rest, hrecipients, hall addr (hrecipients ▸ List.mem_cons_self)⟩

lemma allRecipients_ne_nil (hreads : ReadsAddress codec.parseAddress) (hemail : email.validate codec = none) :
    allRecipients codec email ≠ [] := by
  obtain ⟨addr, rest, hrecipients, address, hparse⟩ := exists_recipient_of_validate hemail
  rw [allRecipients, hrecipients, List.foldl_cons]
  exact foldl_addRecipient_ne_nil (addRecipient_ne_nil (cleanAddress_ne_empty hreads hparse) [])

def roomyAccount (recipients : Nat) : AccountSender :=
  newAccountSender "default" { rateLimit := { maxRecipientsPerEmail := recipients } }

def plainEnv : SendEnv where
  toJSON _ := .ok []
  mime := Proofs.mimeEnv

lemma refuses_roomyAccount (hreads : ReadsAddress codec.parseAddress) (hemail : email.validate codec = none) :
    (roomyAccount (allRecipients codec email).length).refuses codec plainEnv email = none := by
  have hne := allRecipients_ne_nil hreads hemail
  have hroom : (roomyAccount (allRecipients codec email).length).tooManyRecipients (allRecipients codec email) =
      none := by
    unfold AccountSender.tooManyRecipients
    refine if_neg ?_
    simp [roomyAccount, newAccountSender, SmtpAccountConfig.applyDefaults, SmtpAccountConfig.orDefault, hne]
  unfold AccountSender.refuses
  rw [hemail, if_neg hne, hroom]
  rfl

lemma exists_panic_of_not_safe (hreads : ReadsAddress codec.parseAddress) (hemail : email.validate codec = none)
    (hcrash : ¬AttachmentsSafe email) (s : AccountState) :
    ∃ v, ((roomyAccount (allRecipients codec email).length).send codec (some email) plainEnv s).1 = .error v :=
  (AccountSender.send_panics_iff _ _ _ _ _).mpr
    ⟨refuses_roomyAccount hreads hemail, (buildMIME_panics_iff _ _ _ _).mpr hcrash⟩

def singleSender (email : Email) (acc : AccountSender) : MultiAccountSender :=
  ⟨AList.singleton (target email.account) acc, minBatchConcurrency⟩

lemma batchItem_singleSender (codec : Codec) (email : Email) (acc : AccountSender) (env : SendEnv) :
    (singleSender email acc).batchItem codec ⟨none, env⟩ (some email) = (acc.send codec (some email) env {}).1 := by
  have hlookup : (singleSender email acc).accounts.lookup (target email.account) = some acc :=
    List.dlookup_cons_eq _ _ _
  unfold MultiAccountSender.batchItem
  dsimp only
  rw [MultiAccountSender.send, hlookup]

end Crash

end MailBaby.Sender

namespace MailBaby.Proofs

open Lib Lib.Mime Smtp Sender

/-- The sender that is handed to the SMTP client is the address that is read from it, and without angle
brackets, if and only if the value in force is nothing but an address. -/
theorem envelope_bare_iff {codec : Codec} (hreads : ReadsAddress codec.parseAddress) {cfg : SmtpAccountConfig}
    {accountName : String} (hcfg : cfg.validate codec.parseAddress accountName = none) {email : Email}
    (hemail : email.validate codec = none) {name : String} {env : SendEnv} {s : AccountState} {call : SmtpCall}
    (hcall : ((newAccountSender name cfg).send codec (some email) env s).2.calls = s.calls ++ [call]) :
    ∃ address, Address.bareAddress (if email.sender = "" then cfg.sender else email.sender) = some address ∧
      ((call.mailFrom = address ∧ '<' ∉ call.mailFrom.toList ∧ '>' ∉ call.mailFrom.toList) ↔
        Address.IsBare (if email.sender = "" then cfg.sender else email.sender).toList) := by
  obtain ⟨address, haddress⟩ := exists_envelope_address hreads hcfg hemail name
  have hfrom := envelopeFrom_newAccountSender name cfg email
  have hmail : call.mailFrom = if email.sender = "" then cfg.sender else email.sender := by
    rcases AccountSender.calls_of_send (newAccountSender name cfg) codec email env s with hnone | ⟨message, hsome⟩
    · rw [hnone] at hcall
      exact absurd (List.self_eq_append_right.mp hcall) (List.cons_ne_nil _ _)
    · rw [hsome] at hcall
      obtain rfl := List.singleton_inj.mp (List.append_cancel_left hcall)
      exact hfrom
  rw [hfrom, ← hmail] at haddress
  rw [← hmail]
  refine ⟨address, haddress, ?_⟩
  obtain ⟨mailbox, hparse, rfl⟩ := Option.map_eq_some_iff.mp haddress
  constructor
  · rintro ⟨heq, -, -⟩
    refine Address.parseSingleAddress_eq_iff.mp ⟨mailbox, hparse, ?_⟩
    rw [heq, String.toList_ofList]
  · intro hbare
    obtain ⟨mailbox', hparse', hsame⟩ := Address.parseSingleAddress_eq_iff.mpr hbare
    rw [hparse] at hparse'
    obtain rfl := Option.some.inj hparse'
    refine ⟨?_, hbare.not_mem (by decide) (by decide), hbare.not_mem (by decide) (by decide)⟩
    rw [hsame, String.ofList_toList]

def mailCodec : Codec := .standard (fun _ => ⟨"invalid JSON"⟩) readAddress

lemma readsAddress_mailCodec : ReadsAddress mailCodec.parseAddress := readsAddress_readAddress

def exampleAccount : SmtpAccountConfig := { host := "smtp.example.org", port := 587, sender := "noreply@example.org" }

def emailFrom (sender : String) : Email := { sender := sender, toAddrs := ["bob@example.org"], subject := "Hello" }

theorem envelope_bare_iff_ann :
    ∃ call, ((newAccountSender "default" exampleAccount).send mailCodec (some (emailFrom "ann@example.org"))
        plainEnv {}).2.calls = [] ++ [call] ∧
      Address.bareAddress "ann@example.org" = some call.mailFrom ∧
      '<' ∉ call.mailFrom.toList ∧ '>' ∉ call.mailFrom.toList := by
  obtain ⟨message, hbuild⟩ : ∃ message, buildMIME plainEnv.mime (emailFrom "ann@example.org")
      (newAccountSender "default" exampleAccount).cfg.sender
      (newAccountSender "default" exampleAccount).cfg.fromName = .ok message := ⟨_, rfl⟩
  have hrefuses : (newAccountSender "default" exampleAccount).refuses mailCodec plainEnv
      (emailFrom "ann@example.org") = none := Option.isNone_iff_eq_none.mp (by decide +kernel)
  have hcall := AccountSender.send_delivers (s := {}) hrefuses hbuild rfl
  have hbare : Address.IsBare "ann@example.org".toList :=
    ⟨"ann".toList, "example.org".toList, by decide, ⟨by decide, List.all_eq_true.mp (by decide), by decide⟩,
      .name ⟨by decide, List.all_eq_true.mp (by decide), by decide⟩⟩
  have hcfg : exampleAccount.validate mailCodec.parseAddress "default" = none :=
    Option.isNone_iff_eq_none.mp (by decide +kernel)
  have hemail : (emailFrom "ann@example.org").validate mailCodec = none :=
    Option.isNone_iff_eq_none.mp (by decide +kernel)
  obtain ⟨address, haddress, hiff⟩ := envelope_bare_iff readsAddress_mailCodec hcfg hemail hcall
  obtain ⟨heq, hopen, hclose⟩ := hiff.mpr hbare
  exact ⟨_, hcall, heq ▸ haddress, hopen, hclose⟩

/-- A sender with a display name is handed over as it is. -/
theorem envelope_with_name :
    exampleAccount.validate readAddress "default" = none ∧
      (emailFrom "Ann <ann@example.org>").validate mailCodec = none ∧
      Address.bareAddress "Ann <ann@example.org>" = some "ann@example.org" ∧
      ∃ call, ((newAccountSender "default" exampleAccount).send mailCodec
          (some (emailFrom "Ann <ann@example.org>")) plainEnv {}).2.calls = [call] ∧
        call.mailFrom = "Ann <ann@example.org>" := by
  obtain ⟨message, hbuild⟩ : ∃ message, buildMIME plainEnv.mime (emailFrom "Ann <ann@example.org>")
      (newAccountSender "default" exampleAccount).cfg.sender
      (newAccountSender "default" exampleAccount).cfg.fromName = .ok message := ⟨_, rfl⟩
  have hrefuses : (newAccountSender "default" exampleAccount).refuses mailCodec plainEnv
      (emailFrom "Ann <ann@example.org>") = none := Option.isNone_iff_eq_none.mp (by decide +kernel)
  exact ⟨Option.isNone_iff_eq_none.mp (by decide +kernel), Option.isNone_iff_eq_none.mp (by decide +kernel),
    by decide +kernel, _, AccountSender.send_delivers (s := {}) hrefuses hbuild rfl, rfl⟩

/-- `BuildMIME`, `Send` and `SendBatch` never crash on emails from payloads if and only if none of these
has a nil attachment behind valid header names. -/
theorem send_safe_iff {codec : Codec} (hreads : ReadsAddress codec.parseAddress) {emails : List Email}
    (hemails : ∀ email ∈ emails, FromPayload codec email) :
    (∀ email ∈ emails,
      ((∀ env defaultFrom defaultFromName, buildMIME env email defaultFrom defaultFromName ≠ .panics) ↔
          AttachmentsSafe email) ∧
        ((∀ name cfg env s, ∃ result, ((newAccountSender name cfg).send codec (some email) env s).1 = .ok result) ↔
          AttachmentsSafe email)) ∧
      ((∀ (m : MultiAccountSender) envs, (m.sendBatch codec envs (emails.map some)).isSome = true) ↔
        ∀ email ∈ emails, AttachmentsSafe email) := by
  refine ⟨?_, ?_, ?_⟩
  · intro email hemail
    obtain ⟨data, -, hvalid⟩ := hemails email hemail
    refine ⟨⟨?_, ?_⟩, ?_, ?_⟩
    · intro hmime
      by_contra hcrash
      exact hmime mimeEnv "" "" ((buildMIME_panics_iff _ _ _ _).mpr hcrash)
    · intro hsafe env defaultFrom defaultFromName hpanics
      exact (buildMIME_panics_iff _ _ _ _).mp hpanics hsafe
    · intro hsend
      by_contra hcrash
      obtain ⟨v, hpanics⟩ := exists_panic_of_not_safe hreads hvalid hcrash {}
      obtain ⟨result, hok⟩ := hsend "default" _ plainEnv {}
      exact absurd (hpanics.symm.trans hok) nofun
    · intro hsafe name cfg env s
      exact exists_send_of_safe _ codec hsafe env s
  · intro hbatch email hemail
    by_contra hcrash
    obtain ⟨data, -, hvalid⟩ := hemails email hemail
    obtain ⟨v, hpanics⟩ := exists_panic_of_not_safe hreads hvalid hcrash {}
    -- a sender whose only account is the one that crashes
    have hsome := hbatch (singleSender email (roomyAccount (allRecipients codec email).length))
      fun _ => ⟨none, plainEnv⟩
    rw [MultiAccountSender.sendBatch, isSome_mapM_toOption] at hsome
    obtain ⟨i, hi, hget⟩ := List.getElem_of_mem hemail
    obtain ⟨result, hok⟩ := hsome _ (List.mem_mapIdx.mpr ⟨i, by simpa using hi, rfl⟩)
    rw [List.getElem_map, hget, batchItem_singleSender, hpanics] at hok
    cases hok
  · intro hsafe m envs
    rw [MultiAccountSender.sendBatch, isSome_mapM_toOption]
    intro item hitem
    obtain ⟨i, hi, rfl⟩ := List.mem_mapIdx.mp hitem
    rw [List.getElem_map]
    exact m.exists_batchItem_of_safe codec (hsafe _ (List.getElem_mem _)) (envs i)

def plainPayload : Bytes := utf8 "\x7b\"to\":[\"bob@example.org\"]\x7d".toList

theorem send_safe_iff_plain :
    ∃ email, FromPayload mailCodec email ∧
      (∀ name cfg env s, ∃ result, ((newAccountSender name cfg).send mailCodec (some email) env s).1 = .ok result) ∧
      ∀ (m : MultiAccountSender) envs, (m.sendBatch mailCodec envs [some email]).isSome = true := by
  have hpayload : ((Email.fromJSON plainPayload).any fun email =>
      (email.validate mailCodec).isNone && email.attachments.all Option.isSome) = true := by decide +kernel
  cases hjson : Email.fromJSON plainPayload with
  | none =>
    rw [hjson] at hpayload
    cases hpayload
  | some email =>
    rw [hjson] at hpayload
    obtain ⟨hvalid, hattachments⟩ := Bool.and_eq_true_iff.mp hpayload
    have hfrom : FromPayload mailCodec email := ⟨plainPayload, hjson, Option.isNone_iff_eq_none.mp hvalid⟩
    have hsafe : AttachmentsSafe email := .inl fun hnil => by
      exact absurd (List.all_eq_true.mp hattachments none hnil) nofun
    have hemails : ∀ e ∈ [email], FromPayload mailCodec e := by simpa using hfrom
    obtain ⟨hsend, hbatch⟩ := send_safe_iff readsAddress_mailCodec hemails
    exact ⟨email, hfrom, ((hsend email List.mem_cons_self).2).mpr hsafe, hbatch.mpr (by simpa using hsafe)⟩

def nilAttachmentPayload : Bytes := utf8 "\x7b\"to\":[\"bob@example.org\"],\"attachments\":[null]\x7d".toList

/-- An attachment that is null in the payload crashes the process. -/
theorem nil_attachment_crashes :
    ∃ email, Email.fromJSON nilAttachmentPayload = some email ∧ email.validate mailCodec = none ∧
      buildMIME mimeEnv email "noreply@example.org" "" = .panics ∧
      ∃ acc : AccountSender, (∃ v, (acc.send mailCodec (some email) plainEnv {}).1 = .error v) ∧
        (singleSender email acc).sendBatch mailCodec (fun _ => ⟨none, plainEnv⟩) [some email] = none := by
  have hpayload : ((Email.fromJSON nilAttachmentPayload).any fun email => (email.validate mailCodec).isNone &&
      (email.attachments.any Option.isNone && email.headers.keys.isEmpty)) = true := by decide +kernel
  cases hjson : Email.fromJSON nilAttachmentPayload with
  | none =>
    rw [hjson] at hpayload
    cases hpayload
  | some email =>
    rw [hjson] at hpayload
    obtain ⟨hvalid, hrest⟩ := Bool.and_eq_true_iff.mp hpayload
    obtain ⟨hnil, hheaders⟩ := Bool.and_eq_true_iff.mp hrest
    have hvalid' := Option.isNone_iff_eq_none.mp hvalid
    have hcrash : ¬AttachmentsSafe email := by
      obtain ⟨att, hatt, hnone⟩ := List.any_eq_true.mp hnil
      obtain rfl := Option.isNone_iff_eq_none.mp hnone
      rw [AttachmentsSafe, List.isEmpty_iff.mp hheaders]
      simp [hatt]
    obtain ⟨v, hpanics⟩ := exists_panic_of_not_safe readsAddress_mailCodec hvalid' hcrash {}
    refine ⟨email, rfl, hvalid', (buildMIME_panics_iff _ _ _ _).mpr hcrash, _, ⟨v, hpanics⟩, ?_⟩
    rw [MultiAccountSender.sendBatch, List.mapIdx_cons, List.mapIdx_nil, batchItem_singleSender, hpanics]
    rfl

end MailBaby.Proofs
