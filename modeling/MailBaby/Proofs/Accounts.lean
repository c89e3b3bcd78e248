import MailBaby.Sender.Account

/-!
# Account routing

`SmtpConfig.GetAccount` and the sender look an account up by its name in two ways.
-/

namespace MailBaby.Smtp

open Lib

namespace SmtpAccountConfig

lemma orDefault_idem {v default : Int} (h : 0 < default) :
    orDefault (orDefault v default) default = orDefault v default := by
  unfold orDefault
  split_ifs <;> omega

lemma applyDefaults_idem (a : SmtpAccountConfig) : a.applyDefaults.applyDefaults = a.applyDefaults := by
  unfold applyDefaults
  congr 1
  all_goals try exact orDefault_idem (by decide)
  · dsimp only
    split_ifs <;> simp_all
  · dsimp only
    split_ifs <;> simp_all
  · congr 1 <;> exact orDefault_idem (by decide)
  · congr 1
    · dsimp only
      split_ifs <;> omega
    · exact orDefault_idem (by decide)
    · dsimp only
      split_ifs <;> omega

end SmtpAccountConfig

namespace SmtpConfig

variable {parseAddress : String → Except GoError String} {c c' : SmtpConfig}

lemma keys_applyDefaults (c : SmtpConfig) : c.applyDefaults.keys = c.keys := by
  simp [AList.keys, applyDefaults, List.keys, List.map_map, Function.comp_def]

/-- What the validation of a configuration establishes, in any order. -/
structure Accepted (parseAddress : String → Except GoError String) (c c' : SmtpConfig) : Prop where
  hasDefault : c'.keys.any isDefault = true
  defaulted : ∀ e ∈ c'.entries, e.2.applyDefaults = e.2
  validates : ∀ order, c.validate parseAddress order = (none, c')

lemma entries_of_validate {order : RangeOrder AccountEntry}
    (hvalid : c.validate parseAddress order = (none, c')) :
    c' = c.applyDefaults ∧ ∀ e ∈ c'.entries, e.2.validate parseAddress e.1 = none := by
  unfold validate at hvalid
  split_ifs at hvalid
  · cases hvalid
  · cases hvalid
  · obtain ⟨hnone, rfl⟩ := Prod.mk.inj hvalid
    refine ⟨rfl, ?_⟩
    intro e he
    exact List.findSome?_eq_none_iff.mp hnone e (order.mem_arrange.mpr he)

lemma accepted_of_validate {order : RangeOrder AccountEntry}
    (hvalid : c.validate parseAddress order = (none, c')) : Accepted parseAddress c c' := by
  obtain ⟨rfl, hall⟩ := entries_of_validate hvalid
  unfold validate at hvalid
  split_ifs at hvalid with hempty hdefault
  · cases hvalid
  · cases hvalid
  · refine ⟨?_, ?_, ?_⟩
    · rw [keys_applyDefaults]
      simpa using hdefault
    · intro e he
      obtain ⟨e', -, rfl⟩ := List.mem_map.mp he
      exact e'.2.applyDefaults_idem
    · intro order'
      rw [validate, if_neg hempty, if_neg hdefault]
      congr 1
      rw [List.findSome?_eq_none_iff]
      intro e he
      exact hall e (order'.mem_arrange.mp he)

lemma validate_eq_none (hdefault : c.keys.any isDefault = true)
    (hall : (c.applyDefaults.entries.all fun e => (e.2.validate parseAddress e.1).isNone) = true)
    (order : RangeOrder AccountEntry) : c.validate parseAddress order = (none, c.applyDefaults) := by
  have hentries : c.entries ≠ [] := by
    intro hempty
    rw [AList.keys, hempty] at hdefault
    cases hdefault
  rw [validate, if_neg hentries, if_neg (by simpa using hdefault)]
  congr 1
  rw [List.findSome?_eq_none_iff]
  intro e he
  exact Option.isNone_iff_eq_none.mp (List.all_eq_true.mp hall e (order.mem_arrange.mp he))

def considers (c : SmtpConfig) (name key : String) : Bool :=
  if trimSpace name = "" ∨ isDefault (trimSpace name) then isDefault key
  else if trimSpace name ∈ c then key = trimSpace name
  else sameFold key (trimSpace name)

def considered (c : SmtpConfig) (name : String) : List AccountEntry :=
  c.entries.filter fun e => c.considers name e.1

def lowered (c : SmtpConfig) (name : String) : List AccountEntry :=
  c.entries.filter fun e => toLower e.1 = Sender.target name

lemma find?_key_eq_lookup (order : RangeOrder AccountEntry) (c : SmtpConfig) (key : String) :
    ((order.arrange c.entries).find? fun e => e.1 = key).map (·.2) = c.lookup key := by
  cases hlookup : c.lookup key with
  | none =>
    have habsent : key ∉ c := AList.lookup_eq_none.mp hlookup
    rw [Option.map_eq_none_iff, List.find?_eq_none]
    intro e he hkey
    have hkey' : e.1 = key := of_decide_eq_true hkey
    exact habsent (hkey' ▸ AList.mem_keys.mpr (List.mem_keys_of_mem (order.mem_arrange.mp he)))
  | some cfg =>
    have hmem : (⟨key, cfg⟩ : AccountEntry) ∈ c.entries := AList.mem_lookup_iff.mp hlookup
    cases hfind : (order.arrange c.entries).find? fun e => e.1 = key with
    | none =>
      have hne := List.find?_eq_none.mp hfind _ (order.mem_arrange.mpr hmem)
      exact absurd (decide_eq_true rfl) hne
    | some e =>
      have hfound := List.find?_some hfind
      have hkey : e.1 = key := of_decide_eq_true hfound
      have he : e ∈ c.entries := order.mem_arrange.mp (List.mem_of_find?_eq_some hfind)
      obtain ⟨key', cfg'⟩ := e
      subst hkey
      have hsame := AList.mem_lookup_iff.mpr he
      rw [Option.mem_def, hlookup] at hsame
      exact hsame.symm

def outcome (name : String) : Option SmtpAccountConfig → Except LookupError SmtpAccountConfig
  | some cfg => .ok cfg
  | none => .error (.accountNotFound (trimSpace name))

lemma outcome_injective (name : String) : Function.Injective (outcome name) := by
  intro choice choice' h
  cases choice with
  | none => cases choice' with
    | none => rfl
    | some cfg' => cases h
  | some cfg => cases choice' with
    | none => cases h
    | some cfg' => rw [Except.ok.inj h]

lemma exists_findFold_default (hdefault : c.keys.any isDefault = true) (order : RangeOrder AccountEntry) :
    ∃ cfg, c.findFold order defaultAccountName = some cfg := by
  obtain ⟨key, hkey, hfold⟩ := List.any_eq_true.mp hdefault
  obtain ⟨e, he, rfl⟩ := List.mem_map.mp (show key ∈ c.entries.map Sigma.fst from hkey)
  cases hfind : (order.arrange c.entries).find? fun e => sameFold e.1 defaultAccountName with
  | none => exact absurd hfold (List.find?_eq_none.mp hfind e (order.mem_arrange.mpr he))
  | some e' => exact ⟨e'.2, by rw [findFold, hfind]; rfl⟩

lemma getAccount_eq (hdefault : c.keys.any isDefault = true) (order : RangeOrder AccountEntry)
    (name : String) : c.getAccount order name =
      outcome name (((order.arrange c.entries).find? fun e => c.considers name e.1).map (·.2)) := by
  have hentries : c.entries ≠ [] := by
    intro hempty
    rw [AList.keys, hempty] at hdefault
    cases hdefault
  rw [getAccount, if_neg hentries]
  dsimp only
  unfold considers
  by_cases hname : trimSpace name = "" ∨ isDefault (trimSpace name) = true
  · obtain ⟨cfg, hcfg⟩ := exists_findFold_default hdefault order
    simp only [if_pos hname, hcfg]
    change _ = outcome name (c.findFold order defaultAccountName)
    rw [hcfg]
    rfl
  · simp only [if_neg hname]
    by_cases hexact : trimSpace name ∈ c
    · obtain ⟨cfg, hcfg⟩ := Option.isSome_iff_exists.mp (AList.lookup_isSome.mpr hexact)
      simp only [if_pos hexact, find?_key_eq_lookup, hcfg]
      rfl
    · simp only [if_neg hexact, AList.lookup_eq_none.mpr hexact, Option.none_or]
      change _ = outcome name (c.findFold order (trimSpace name))
      cases c.findFold order (trimSpace name) <;> rfl

end SmtpConfig

end MailBaby.Smtp

namespace MailBaby.Sender

open Lib Smtp

def accountOf (e : AccountEntry) : AccountSender := newAccountSender e.1 e.2

lemma lookup_accountsOf (order : RangeOrder AccountEntry) (c : SmtpConfig) (key : String) :
    (accountsOf order c).lookup key =
      ((order.reversed.arrange c.entries).find? fun e => toLower e.1 = key).map accountOf := by
  rw [accountsOf]
  refine (lookup_foldl_insert_key (fun e : AccountEntry => toLower e.1) accountOf _ _ _).trans ?_
  rw [AList.lookup_empty, Option.or_none]
  rfl

def accountResult (name : String) : Option AccountSender → Except GoError AccountSender
  | some acc => .ok acc
  | none => .error (MultiAccountSender.notFound name)

def sendResult (codec : Codec) (email : Email) : Option AccountSender → AccountProc (Option GoError)
  | some acc => acc.send codec (some email)
  | none => pure (some (MultiAccountSender.notFound email.account))

/-- The account, if there is one, that `Account` and `Send` select for a name. -/
structure Selects (m : MultiAccountSender) (name : String) (selected : Option AccountSender) : Prop where
  account : m.account name = accountResult name selected
  send : ∀ codec email, email.account = name → m.send codec (some email) = sendResult codec email selected

lemma selects_lookup (m : MultiAccountSender) (name : String) :
    Selects m name (m.accounts.lookup (target name)) := by
  constructor
  · rw [MultiAccountSender.account]
    cases m.accounts.lookup (target name) <;> rfl
  · rintro codec email rfl
    rw [MultiAccountSender.send]
    cases m.accounts.lookup (target email.account) <;> rfl

lemma accountResult_injective (name : String) : Function.Injective (accountResult name) := by
  intro selected selected' h
  cases selected with
  | none => cases selected' with
    | none => rfl
    | some acc' => cases h
  | some acc => cases selected' with
    | none => cases h
    | some acc' => rw [Except.ok.inj h]

lemma Selects.eq_lookup {m : MultiAccountSender} {name : String} {selected : Option AccountSender}
    (h : Selects m name selected) : m.accounts.lookup (target name) = selected :=
  accountResult_injective name ((selects_lookup m name).account.symm.trans h.account)

lemma toLower_eq_target_iff (name : String) : toLower name = target name ↔ trimSpace name = name ∧ name ≠ "" := by
  unfold target
  constructor
  · intro h
    split_ifs at h with hempty
    · -- the key is "default", and so nothing was trimmed
      have hblank : (defaultAccountName.toList.all fun c => !isSpace c) = true := by decide
      have htrim : trimSpace name = name := by
        refine trimSpace_of_toLower fun c hc => ?_
        rw [h] at hc
        simpa using List.all_eq_true.mp hblank c hc
      rw [htrim, h] at hempty
      exact absurd hempty (by decide)
    · have hlength := congrArg String.length h
      rw [length_toLower, length_toLower] at hlength
      refine ⟨trimSpace_eq_of_length hlength.symm, ?_⟩
      rintro rfl
      exact hempty (by decide)
  · rintro ⟨htrim, hne⟩
    rw [htrim, if_neg]
    intro hempty
    have hlength := congrArg String.length hempty
    rw [length_toLower] at hlength
    exact hne (String.length_eq_zero_iff.mp hlength)

end MailBaby.Sender

namespace MailBaby.Proofs

open Lib Smtp Sender

namespace Accounts

open Smtp.SmtpConfig RangeOrder

variable {parseAddress : String → Except GoError String} {c c' : SmtpConfig}

lemma new_of_accepted (haccepted : Accepted parseAddress c c') (validated filled : RangeOrder AccountEntry) :
    new parseAddress validated filled c = .ok ⟨accountsOf filled c', batchLimit c'⟩ := by
  rw [new, haccepted.validates validated]

lemma selects_all_iff (haccepted : Accepted parseAddress c c') (name : String)
    (p : Option AccountSender → Prop) :
    (∀ validated filled, ∃ m selected, new parseAddress validated filled c = .ok m ∧
        Selects m name selected ∧ p selected) ↔
      ∀ order : RangeOrder AccountEntry,
        p (((order.reversed.arrange c'.entries).find? fun e => toLower e.1 = target name).map accountOf) := by
  constructor
  · intro hall order
    obtain ⟨m, selected, hnew, hselects, hp⟩ := hall order order
    rw [new_of_accepted haccepted] at hnew
    obtain rfl := Except.ok.inj hnew
    rwa [← lookup_accountsOf, hselects.eq_lookup]
  · intro hall validated filled
    refine ⟨_, _, new_of_accepted haccepted validated filled, selects_lookup _ name, ?_⟩
    rw [lookup_accountsOf]
    exact hall filled

lemma routed_iff (haccepted : Accepted parseAddress c c') (name : String) :
    (∃ choice, (∀ validated filled, ∃ m selected, new parseAddress validated filled c = .ok m ∧
          Selects m name selected ∧ selected.map (·.cfg) = choice) ∧
        ∀ looked, c'.getAccount looked name = outcome name choice) ↔
      (c'.lowered name = [] ↔ c'.considered name = []) ∧
        ∀ a ∈ c'.lowered name, ∀ b ∈ c'.considered name, a.2 = b.2 := by
  have hchoice : ∀ choice, ((∀ validated filled, ∃ m selected, new parseAddress validated filled c = .ok m ∧
          Selects m name selected ∧ selected.map (·.cfg) = choice) ∧
        ∀ looked, c'.getAccount looked name = outcome name choice) ↔
      Settled (fun e => toLower e.1 = target name) (fun e => (accountOf e).cfg) c'.entries choice ∧
        Settled (fun e => c'.considers name e.1) (·.2) c'.entries choice := by
    intro choice
    rw [selects_all_iff haccepted name fun selected => selected.map (·.cfg) = choice,
      ← settled_reversed_iff, ← settled_iff]
    simp only [getAccount_eq haccepted.hasDefault, (outcome_injective name).eq_iff, Option.map_map]
    rfl
  rw [exists_congr hchoice, exists_settled_iff]
  refine and_congr_right fun _ => forall₂_congr fun a ha => ?_
  have hcfg : (accountOf a).cfg = a.2 := haccepted.defaulted a (List.mem_filter.mp ha).1
  rw [hcfg]
  rfl

lemma settled_name_iff {name : String} (hname : name ∈ c') :
    Settled (fun e : AccountEntry => toLower e.1 = target name) (·.1) c'.entries (some name) ↔
      trimSpace name = name ∧ name ≠ "" ∧ ∀ key ∈ c', toLower key = toLower name → key = name := by
  have hmem : ∀ key ∈ c', toLower key = target name → key ∈ (c'.lowered name).map Sigma.fst := by
    intro key hkey hlower
    obtain ⟨e, he, rfl⟩ := List.mem_map.mp (show key ∈ c'.entries.map Sigma.fst from hkey)
    exact List.mem_map.mpr ⟨e, List.mem_filter.mpr ⟨he, decide_eq_true hlower⟩, rfl⟩
  constructor
  · rintro ⟨hagree, hsome⟩
    have hnonempty : c'.lowered name ≠ [] := by
      intro hempty
      cases hsome hempty
    obtain ⟨e, he⟩ := List.exists_mem_of_ne_nil _ hnonempty
    have htarget : toLower name = target name := by
      have hown : name = e.1 := Option.some.inj (hagree e he)
      have hlower := (List.mem_filter.mp he).2
      rw [decide_eq_true_eq, ← hown] at hlower
      exact hlower
    obtain ⟨htrim, hne⟩ := (toLower_eq_target_iff name).mp htarget
    refine ⟨htrim, hne, ?_⟩
    intro key hkey hlower
    obtain ⟨e', he', rfl⟩ := List.mem_map.mp (hmem key hkey (hlower.trans htarget))
    exact (Option.some.inj (hagree e' he')).symm
  · rintro ⟨htrim, hne, hkeys⟩
    have htarget := (toLower_eq_target_iff name).mpr ⟨htrim, hne⟩
    constructor
    · intro e he
      obtain ⟨hentry, hlower⟩ := List.mem_filter.mp he
      rw [decide_eq_true_eq] at hlower
      have hown := hkeys e.1 (AList.mem_keys.mpr (List.mem_keys_of_mem hentry)) (hlower.trans htarget.symm)
      exact congrArg some hown.symm
    · intro hempty
      have habsent : (c'.lowered name).map Sigma.fst = [] := by rw [lowered, hempty]; rfl
      have howned := hmem name hname htarget
      rw [habsent] at howned
      cases howned

lemma selected_by_name_iff (haccepted : Accepted parseAddress c c') {name : String} (hname : name ∈ c') :
    (∀ validated filled, ∃ m selected, new parseAddress validated filled c = .ok m ∧
        Selects m name selected ∧
          ∃ acc, selected = some acc ∧ acc.name = name ∧ c'.lookup name = some acc.cfg) ↔
      trimSpace name = name ∧ name ≠ "" ∧ ∀ key ∈ c', toLower key = toLower name → key = name := by
  rw [← settled_name_iff hname, ← settled_reversed_iff, selects_all_iff haccepted name fun selected =>
    ∃ acc, selected = some acc ∧ acc.name = name ∧ c'.lookup name = some acc.cfg]
  refine forall_congr' fun order => ?_
  constructor
  · rintro ⟨acc, hacc, hown, -⟩
    obtain ⟨e, he, rfl⟩ := Option.map_eq_some_iff.mp hacc
    rw [he]
    exact congrArg some hown
  · intro hfound
    obtain ⟨e, he, rfl⟩ := Option.map_eq_some_iff.mp hfound
    have hentry : e ∈ c'.entries := order.reversed.mem_arrange.mp (List.mem_of_find?_eq_some he)
    refine ⟨accountOf e, by rw [he]; rfl, rfl, ?_⟩
    have hlookup : c'.lookup e.1 = some e.2 := AList.mem_lookup_iff.mpr hentry
    rw [hlookup]
    exact congrArg some (haccepted.defaulted e hentry).symm

end Accounts

open Smtp.SmtpConfig in
/-- For a configuration that is accepted, the sender selects under a name the account that `GetAccount`
returns for it, whatever the orders of the ranges, and an account is selected by its own name, if and
only if the keys with this name in lower case and the keys that `GetAccount` considers belong to one and
the same account, or there are none of either, and the account's own name is trimmed, not empty, and
not the name of another account in other case. -/
theorem account_routing_iff {parseAddress : String → Except GoError String} {c c' : SmtpConfig}
    {order : RangeOrder AccountEntry} (hvalid : c.validate parseAddress order = (none, c')) (name : String) :
    ((∃ choice, (∀ validated filled, ∃ m selected, new parseAddress validated filled c = .ok m ∧
          Selects m name selected ∧ selected.map (·.cfg) = choice) ∧
        ∀ looked, c'.getAccount looked name = outcome name choice) ∧
      (name ∈ c' → ∀ validated filled, ∃ m selected, new parseAddress validated filled c = .ok m ∧
        Selects m name selected ∧
          ∃ acc, selected = some acc ∧ acc.name = name ∧ c'.lookup name = some acc.cfg)) ↔
      ((c'.lowered name = [] ↔ c'.considered name = []) ∧
        ∀ a ∈ c'.lowered name, ∀ b ∈ c'.considered name, a.2 = b.2) ∧
      (name ∈ c' → trimSpace name = name ∧ name ≠ "" ∧
        ∀ key ∈ c', toLower key = toLower name → key = name) := by
  have haccepted := accepted_of_validate hvalid
  rw [Accounts.routed_iff haccepted name]
  refine and_congr_right fun _ => forall_congr' fun hname => ?_
  exact Accounts.selected_by_name_iff haccepted hname

def hostAccount (host : String) : SmtpAccountConfig := { host := host, sender := "noreply@example.org" }

def opsConfig : SmtpConfig :=
  ⟨[⟨"default", hostAccount "smtp.example.org"⟩, ⟨"Ops", hostAccount "ops.example.org"⟩],
    show ["default", "Ops"].Nodup by decide⟩

theorem account_routing_iff_ops :
    ∃ c', opsConfig.validate readAddress .stored = (none, c') ∧
      (∃ choice, (∀ validated filled, ∃ m selected, new readAddress validated filled opsConfig = .ok m ∧
          Selects m "Ops" selected ∧ selected.map (·.cfg) = choice) ∧
        ∀ looked, c'.getAccount looked "Ops" = SmtpConfig.outcome "Ops" choice) ∧
      ∀ validated filled, ∃ m selected, new readAddress validated filled opsConfig = .ok m ∧
        Selects m "Ops" selected ∧
          ∃ acc, selected = some acc ∧ acc.name = "Ops" ∧ c'.lookup "Ops" = some acc.cfg := by
  have hvalid : opsConfig.validate readAddress .stored = (none, opsConfig.applyDefaults) :=
    SmtpConfig.validate_eq_none (by decide +kernel) (by decide +kernel) _
  have hlowered : opsConfig.applyDefaults.lowered "Ops" =
      [⟨"Ops", (hostAccount "ops.example.org").applyDefaults⟩] := rfl
  have hconsidered : opsConfig.applyDefaults.considered "Ops" =
      [⟨"Ops", (hostAccount "ops.example.org").applyDefaults⟩] := rfl
  have hkeys : ∀ key ∈ ["default", "Ops"], toLower key = toLower "Ops" → key = "Ops" := by decide +kernel
  have hroutes := (account_routing_iff hvalid "Ops").mpr
    ⟨by rw [hlowered, hconsidered]; simp, fun _ => ⟨by decide, by decide, hkeys⟩⟩
  exact ⟨_, hvalid, hroutes.1, hroutes.2 (by decide +kernel)⟩

def twoOpsConfig : SmtpConfig :=
  ⟨[⟨"default", hostAccount "smtp.example.org"⟩, ⟨"Ops", hostAccount "one.example.org"⟩,
    ⟨"ops", hostAccount "two.example.org"⟩], show ["default", "Ops", "ops"].Nodup by decide⟩

/-- Mail for "Ops" is sent through the host of "ops", and not through the one `GetAccount` returns. -/
theorem account_misrouted :
    ∃ c' m acc cfg, twoOpsConfig.validate readAddress .stored = (none, c') ∧
      new readAddress .stored .stored twoOpsConfig = .ok m ∧ Selects m "Ops" (some acc) ∧
      c'.getAccount .stored "Ops" = .ok cfg ∧
      acc.cfg.host = "two.example.org" ∧ cfg.host = "one.example.org" := by
  have hvalid : twoOpsConfig.validate readAddress .stored = (none, twoOpsConfig.applyDefaults) :=
    SmtpConfig.validate_eq_none (by decide +kernel) (by decide +kernel) _
  have hnew := Accounts.new_of_accepted (SmtpConfig.accepted_of_validate hvalid) .stored .stored
  exact ⟨_, _, newAccountSender "ops" (hostAccount "two.example.org").applyDefaults, _, hvalid, hnew,
    selects_lookup _ "Ops", rfl, rfl, rfl⟩

end MailBaby.Proofs
