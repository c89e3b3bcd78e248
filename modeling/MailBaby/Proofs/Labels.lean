import MailBaby.Metrics

/-!
# The account label

Nothing bounds the values of the label: every email whose send returns adds the sanitised name of its
account.
-/

namespace MailBaby.Proofs

open Lib MailBaby.Core MailBaby.Metrics

variable {sha256 : Bytes → Bytes}

namespace Labels

lemma accountLabels_append (ms ms' : List Metric) :
    accountLabels sha256 (ms ++ ms') = accountLabels sha256 ms ++ accountLabels sha256 ms' :=
  List.filterMap_append

lemma sanitizeLabel_of_plain {v : String} (htrim : trimSpace v = v) (hne : v ≠ "")
    (hplain : v.toList.all (fun r => !isForbidden r) = true) (hlength : (utf8 v.toList).length ≤ maxLabelValueLen) :
    sanitizeLabel sha256 v = v := by
  have hfilter : v.toList.filter (fun r => !isForbidden r) = v.toList :=
    List.filter_eq_self.mpr fun c hc => List.all_eq_true.mp hplain c hc
  unfold sanitizeLabel
  rw [htrim]
  dsimp only
  rw [if_neg hne, hfilter, if_neg (Nat.not_lt.mpr hlength), String.ofList_toList]

lemma sanitizeLabel_accountLabel (email : Email) :
    sanitizeLabel sha256 email.accountLabel = sanitizeLabel sha256 email.account := by
  have hempty : sanitizeLabel sha256 "" = "default" := by
    have htrim : trimSpace "" = "" := by decide
    unfold sanitizeLabel
    rw [htrim]
    exact if_pos rfl
  have hdefault : sanitizeLabel sha256 "default" = "default" :=
    sanitizeLabel_of_plain (by decide) (by decide) (by decide) (by decide)
  unfold Email.accountLabel
  split <;> rename_i h
  · rw [h, hempty, hdefault]
  · rfl

/-! ### Steps that give no account label -/

def Unlabelled {α : Type} (sha256 : Bytes → Bytes) (p : Proc α) : Prop :=
  ∀ env w, accountLabels sha256 (p env w).2.metrics = accountLabels sha256 w.metrics

lemma Unlabelled.of_metrics {α : Type} {p : Proc α} (h : ∀ env w, (p env w).2.metrics = w.metrics) :
    Unlabelled sha256 p := fun env w => by rw [h]

lemma Unlabelled.pure {α : Type} (a : α) : Unlabelled sha256 (pure a : Proc α) := .of_metrics fun _ _ => rfl

lemma Unlabelled.bind {α β : Type} {p : Proc α} {f : α → Proc β} (hp : Unlabelled sha256 p)
    (hf : ∀ a, Unlabelled sha256 (f a)) : Unlabelled sha256 (p >>= f) := by
  intro env w
  rw [← hp env w]
  rcases h : p env w with ⟨r, w'⟩
  cases r with
  | ok a =>
    rw [Eff.bind_of_ok h]
    exact hf a env w'
  | error v => rw [Eff.bind_of_error h]

lemma unlabelled_call (result : Env → CallResult) (log : CallResult → Event) :
    Unlabelled sha256 (call result log) := by
  refine .of_metrics fun env w => ?_
  unfold call
  cases result env <;> rfl

lemma unlabelled_pause (interval : Duration) (k : Nat) : Unlabelled sha256 (Engine.pause interval k) := by
  cases k with
  | zero => exact .pure none
  | succ k =>
    refine .bind ?_ fun jitter => .of_metrics fun _ _ => rfl
    unfold int63n
    split
    · exact .of_metrics fun _ _ => rfl
    · exact .of_metrics fun _ _ => rfl

lemma unlabelled_attempts (e : Engine) (email : Email) (n i : Nat) (lastErr : Option GoError) :
    Unlabelled sha256 (e.attempts email n i lastErr) := by
  induction n generalizing i lastErr with
  | zero => exact .pure lastErr
  | succ n ih =>
    refine .bind (.of_metrics fun _ _ => rfl) fun ctx => ?_
    cases ctx with
    | some err => exact .pure _
    | none =>
      refine .bind (unlabelled_pause _ i) fun slept => ?_
      cases slept with
      | some err => exact .pure _
      | none =>
        refine .bind (unlabelled_call _ _) fun sent => ?_
        cases sent with
        | none => exact .pure _
        | some err =>
          refine .bind (.of_metrics fun _ _ => rfl) fun _ => .bind ?_ fun _ => ih (i + 1) (some err)
          -- the retry is counted for the queue, not for an account
          intro env w
          exact (accountLabels_append _ _).trans (List.append_nil _)

lemma unlabelled_sendWithRetry (e : Engine) (email : Email) : Unlabelled sha256 (e.sendWithRetry email) :=
  .bind (.of_metrics fun _ _ => rfl) fun m => unlabelled_attempts e email (e.budget m) 0 none

/-! ### The labels of one email -/

lemma mem_labels_sendSync (s : SendService) (env : CallEnv) (email : Email) (l : String) :
    l ∈ accountLabels sha256 (Pass.sendSync s env email).metrics ↔
      (Pass.sendSync s env email).returned = true ∧ l = sanitizeLabel sha256 email.account := by
  have hlabel : sanitizeLabel sha256 (if email.account = "" then "default" else email.account) =
      sanitizeLabel sha256 email.account := sanitizeLabel_accountLabel email
  obtain ⟨sender, producer, queueName⟩ := s
  cases sender with
  | false => simp [Pass.metrics, Pass.returned, SendService.sendSync, accountLabels]
  | true =>
    cases hresult : env.result with
    | panics v =>
      have hmetrics : (Pass.sendSync ⟨true, producer, queueName⟩ env email).metrics = [] := by
        simp [Pass.metrics, SendService.sendSync, invoke, start, Eff.bind_apply, hresult, Eff.panic]
      simp [hmetrics, Pass.returned, hresult, accountLabels]
    | returns err =>
      cases err with
      | some err =>
        have hmetrics : (Pass.sendSync ⟨true, producer, queueName⟩ env email).metrics =
            [.emailsSent (if email.account = "" then "default" else email.account) "failed"] := by
          simp [Pass.metrics, SendService.sendSync, invoke, start, record, Eff.bind_apply, hresult]
        simp [hmetrics, Pass.returned, hresult, accountLabels, accountLabel, hlabel]
      | none =>
        have hmetrics : (Pass.sendSync ⟨true, producer, queueName⟩ env email).metrics =
            [.emailsSent (if email.account = "" then "default" else email.account) "success",
              .emailDuration (if email.account = "" then "default" else email.account)] := by
          simp [Pass.metrics, SendService.sendSync, invoke, start, record, Eff.bind_apply, hresult]
        simp [hmetrics, Pass.returned, hresult, accountLabels, accountLabel, hlabel]

lemma mem_labels_outcome (driver topic : String) (email : Email) (err : Option GoError) (l : String) :
    l ∈ accountLabels sha256 (outcomeMetrics driver topic email err) ↔
      l = sanitizeLabel sha256 email.account := by
  rw [← sanitizeLabel_accountLabel email]
  cases err with
  | some err => simp [outcomeMetrics, accountLabels, accountLabel, eq_comm]
  | none =>
    simp only [outcomeMetrics, accountLabels, List.mem_filterMap]
    constructor
    · rintro ⟨m, hm, hl⟩
      simp only [List.mem_cons, List.not_mem_nil, or_false] at hm
      rcases hm with rfl | rfl | rfl | rfl | rfl | rfl | rfl <;> simp [accountLabel] at hl
      all_goals first | exact hl.symm | exact hl.2.symm
    · intro hl
      exact ⟨.emailDuration email.accountLabel, by simp, congrArg some hl.symm⟩

lemma mem_labels_process (e : Engine) (env : Env) (w : World) (email : Email) (l : String) :
    l ∈ accountLabels sha256 (Pass.process e env w email).metrics ↔
      (Pass.process e env w email).returned = true ∧ l = sanitizeLabel sha256 email.account := by
  have hunlabelled : Unlabelled sha256 (e.sendWithRetry email) := unlabelled_sendWithRetry e email
  have hquiet := hunlabelled env
    ({ w with metrics := [] }.record (.queueReceived e.queue.driver.name e.queue.name))
  have hnone : accountLabels sha256 ({ w with metrics := [] }.record
      (.queueReceived e.queue.driver.name e.queue.name)).metrics = [] := rfl
  rw [hnone] at hquiet
  unfold Pass.metrics Pass.returned
  rcases hsend : e.sendWithRetry email env
    ({ w with metrics := [] }.record (.queueReceived e.queue.driver.name e.queue.name)) with ⟨r, w'⟩
  rw [hsend] at hquiet
  cases r with
  | error v =>
    have hchain : metricsMiddleware e.queue.driver.name e.queue.name e.sendWithRetry email env
        { w with metrics := [] } = (.error v, w') := by
      unfold metricsMiddleware
      rw [Eff.bind_of_ok (Eff.update_apply env _ _), Eff.bind_of_error hsend]
    simp only [hchain, hsend, hquiet, List.not_mem_nil, Bool.false_eq_true, false_and]
  | ok err =>
    have hchain : metricsMiddleware e.queue.driver.name e.queue.name e.sendWithRetry email env
        { w with metrics := [] } =
          (.ok err, w'.recordAll (outcomeMetrics e.queue.driver.name e.queue.name email err)) := by
      unfold metricsMiddleware
      rw [Eff.bind_of_ok (Eff.update_apply env _ _), Eff.bind_of_ok hsend]
      rfl
    have hmetrics : (w'.recordAll (outcomeMetrics e.queue.driver.name e.queue.name email err)).metrics =
        w'.metrics ++ outcomeMetrics e.queue.driver.name e.queue.name email err := rfl
    simp only [hchain, hsend, hmetrics, accountLabels_append, hquiet, List.nil_append, mem_labels_outcome, true_and]

lemma mem_labels (p : Pass) (l : String) :
    l ∈ accountLabels sha256 p.metrics ↔ p.returned = true ∧ l = sanitizeLabel sha256 p.email.account := by
  cases p with
  | sendSync s env email => exact mem_labels_sendSync s env email l
  | process e env w email => exact mem_labels_process e env w email l

def sentAccounts (sha256 : Bytes → Bytes) (passes : List Pass) : List String :=
  ((passes.filter Pass.returned).map fun p => sanitizeLabel sha256 p.email.account).dedup

theorem recordedLabels_perm (sha256 : Bytes → Bytes) (passes : List Pass) :
    (recordedLabels sha256 passes).Perm (sentAccounts sha256 passes) := by
  refine (List.perm_ext_iff_of_nodup (List.nodup_dedup _) (List.nodup_dedup _)).mpr fun l => ?_
  simp only [List.mem_dedup, List.mem_flatMap, mem_labels, List.mem_map, List.mem_filter]
  constructor
  · rintro ⟨p, hp, hreturned, hl⟩
    exact ⟨p, ⟨hp, hreturned⟩, hl.symm⟩
  · rintro ⟨p, ⟨hp, hreturned⟩, hl⟩
    exact ⟨p, hp, hreturned, hl.symm⟩

end Labels

open Labels

/-- The label stays bounded exactly as long as the accounts of the emails do. -/
theorem account_labels_bounded_iff (sha256 : Bytes → Bytes) (passes : List Pass) :
    (recordedLabels sha256 passes).length ≤ maxAllowedAccountLabelValues ↔
      (sentAccounts sha256 passes).length ≤ maxAllowedAccountLabelValues := by
  rw [(recordedLabels_perm sha256 passes).length_eq]

namespace Labels

def onePerAccount (accounts : List String) : List Pass :=
  accounts.map fun account => .sendSync ⟨true, false, ""⟩ {} { account := account }

lemma sentAccounts_onePerAccount {accounts : List String} (hnodup : accounts.Nodup)
    (hplain : ∀ account ∈ accounts, sanitizeLabel sha256 account = account) :
    sentAccounts sha256 (onePerAccount accounts) = accounts := by
  have hreturned : (onePerAccount accounts).filter Pass.returned = onePerAccount accounts := by
    refine List.filter_eq_self.mpr fun p hp => ?_
    obtain ⟨account, -, rfl⟩ := List.mem_map.mp hp
    rfl
  have hmap : (onePerAccount accounts).map (fun p => sanitizeLabel sha256 p.email.account) =
      accounts.map (sanitizeLabel sha256) := by
    simp only [onePerAccount, List.map_map, Function.comp_def, Pass.email]
  rw [sentAccounts, hreturned, hmap, List.map_congr_left hplain, List.map_id', hnodup.dedup]

def tenants : List String := (List.range 101).map fun i => String.ofList [Char.ofNat (0x100 + i)]

lemma nodup_tenants : tenants.Nodup := by
  refine List.nodup_range.map_on fun i hi j hj h => ?_
  have hletter : Char.ofNat (0x100 + i) = Char.ofNat (0x100 + j) := by simpa using h
  have hcode : ∀ k : Fin 101, (Char.ofNat (0x100 + k.val)).toNat = 0x100 + k.val := by decide
  have hsum := congrArg Char.toNat hletter
  rw [hcode ⟨i, List.mem_range.mp hi⟩, hcode ⟨j, List.mem_range.mp hj⟩] at hsum
  exact Nat.add_left_cancel hsum

lemma sanitizeLabel_of_mem_tenants {account : String} (h : account ∈ tenants) :
    sanitizeLabel sha256 account = account := by
  have hall : tenants.all (fun account => trimSpace account = account ∧ account ≠ "" ∧
      account.toList.all (fun r => !isForbidden r) = true ∧
      (utf8 account.toList).length ≤ maxLabelValueLen) = true := by decide +kernel
  obtain ⟨htrim, hne, hplain, hlength⟩ := of_decide_eq_true (List.all_eq_true.mp hall account h)
  exact sanitizeLabel_of_plain htrim hne hplain hlength

lemma length_tenants : tenants.length = 101 := by
  rw [tenants, List.length_map, List.length_range]

end Labels

/-- One hundred and one accounts give as many labels. No name is long enough to be hashed, so
the hash function does not matter. -/
theorem account_labels_unbounded :
    ¬(recordedLabels id (onePerAccount tenants)).length ≤ maxAllowedAccountLabelValues := by
  have hlabels : sentAccounts id (onePerAccount tenants) = tenants :=
    sentAccounts_onePerAccount nodup_tenants fun account h => sanitizeLabel_of_mem_tenants h
  rw [(recordedLabels_perm id _).length_eq, hlabels, length_tenants]
  decide

end MailBaby.Proofs
