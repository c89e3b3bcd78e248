import Mathlib.Algebra.Group.Nat.Defs
import MailBaby.Proofs.SendApi

/-!
# The answers to batches

Both servers count the items of a batch and store a result for every one of them. As long as no call panics,
the counts and the results agree, in whatever order the goroutines take the lock.
-/

namespace MailBaby

open Lib

/-! ### One item -/

namespace Core

/-- What is counted and stored for an item; `id?` is the identifier of the email that was built from it. -/
structure Answers {ρ : Type} (id status : ρ → String) (id? : Option String) (out : Bool × ρ) : Prop where
  failed_iff : status out.2 = "failed" ↔ out.1 = false
  id_eq {x : String} (h : id? = some x) : id out.2 = x

section Carries

variable {ε ρ : Type} {svc : Option SendService} {toJSON : Email → Except GoError Bytes} {async : Bool}
  {email : Email} {fail : GoError → ε} {id status : ρ → String} {p : SendProc (Except ε ρ)}

lemma Carries.answers (hp : Carries svc toJSON async email fail id status p)
    {next : Except ε ρ → SendProc (Bool × ρ)} (hok : ∀ resp, next (.ok resp) = pure (true, resp))
    (herror : ∀ err env t, ∃ resp, next (.error err) env t = (.ok (false, resp), t) ∧
      status resp = "failed" ∧ id resp = email.id) {env : CallEnv} (hpanic : env.result.isPanic = false) :
    ∃ out, ((p >>= next) env {}).1 = .ok out ∧ Answers id status (some email.id) out := by
  rcases hp.cases env with ⟨⟨-, hpanics⟩, -⟩ | ⟨-, ⟨err, t, ht⟩ | ⟨resp, t, ht, -, hstatus, hid⟩⟩
  · rw [hpanic] at hpanics
    cases hpanics
  · obtain ⟨resp, hnext, hstatus, hresp⟩ := herror err env t
    refine ⟨(false, resp), ?_, iff_of_true hstatus rfl, fun h => ?_⟩
    · rw [Eff.bind_of_ok ht, hnext]
    · exact hresp.trans (Option.some.inj h)
  · refine ⟨(true, resp), ?_, iff_of_false hstatus (by simp), fun h => ?_⟩
    · rw [Eff.bind_of_ok ht, hok]
      rfl
    · exact hid.trans (Option.some.inj h)

end Carries

def Action.id? : Action → Option String
  | .rejectNil => none
  | .rejectInvalid email _ => some email.id
  | .deliver _ email => some email.id

lemma id?_action (codec : Codec) (async : Bool) (email : Option Email) :
    (action codec async email).id? = email.map (·.id) := by
  cases email with
  | none => rfl
  | some email =>
    cases hvalid : email.validate codec with
    | some err =>
      rw [action_of_invalid async hvalid]
      rfl
    | none =>
      rw [action_of_valid async hvalid]
      rfl

end Core

namespace Handler.EmailHandler

open MailBaby.Core

variable (h : EmailHandler)

lemma answerItem_answers (a : Action) {env : CallEnv} (hpanic : env.result.isPanic = false) :
    ∃ out, (h.answerItem a env {}).1 = .ok out ∧
      Answers SendEmailResponse.id SendEmailResponse.status a.id? out := by
  cases a with
  | rejectNil => exact ⟨_, rfl, iff_of_true rfl rfl, nofun⟩
  | rejectInvalid email err => exact ⟨_, rfl, iff_of_true rfl rfl, fun hx => Option.some.inj hx⟩
  | deliver async email =>
    exact (h.carries async email).answers (fun _ => rfl)
      (fun err env t => ⟨_, rfl, rfl, rfl⟩) hpanic

end Handler.EmailHandler

namespace Rpc.Server

open MailBaby.Core

variable (s : Server)

lemma answerItem_answers (a : Action) {env : CallEnv} (hpanic : env.result.isPanic = false) :
    ∃ out, (s.answerItem a env {}).1 = .ok out ∧
      Answers SendMailResponse.id SendMailResponse.status a.id? out := by
  cases a with
  | rejectNil => exact ⟨_, rfl, iff_of_true rfl rfl, nofun⟩
  | rejectInvalid email err => exact ⟨_, rfl, iff_of_true rfl rfl, fun hx => Option.some.inj hx⟩
  | deliver async email =>
    exact (s.carries async email).answers (fun _ => rfl)
      (fun err env t => ⟨_, rfl, rfl, rfl⟩) hpanic

end Rpc.Server

/-! ### Whole batches -/

namespace SendApi

open MailBaby.Core

/-- The law of the answer to a batch. The emails that were built from its items have the identifiers
`ids`; a nil item has none. -/
structure Accounted {ρ : Type} (id status : ρ → String) (ids : List (Option String))
    (total succeeded failed : Int) (results : List (Option ρ)) : Prop where
  total_eq : total = ids.length
  sum_eq : succeeded + failed = ids.length
  length_eq : results.length = ids.length
  entry : ∀ i < ids.length, ∃ res, results[i]? = some (some res) ∧
    ∀ x, ids[i]? = some (some x) → id res = x
  failures : results.countP (·.any fun res => status res = "failed") = failed

variable {ρ : Type} {id status : ρ → String} {ids : List (Option String)} {out : Nat → Bool × ρ} {n : Nat}

lemma accounted_collected (hn : ids.length = n) (hout : ∀ i < n, Answers id status (ids.getD i none) (out i)) :
    Accounted id status ids n (Tally.collected out n).succeeded (Tally.collected out n).failed
      (Tally.collected out n).results := by
  have hfailed : ∀ i < n, decide (status (out i).2 = "failed") = !(out i).1 := by
    intro i hi
    have hiff := (hout i hi).failed_iff
    cases hcount : (out i).1 with
    | true => simpa [hcount] using hiff
    | false => simpa [hcount] using hiff
  refine ⟨by rw [hn], ?_, ?_, fun i hi => ⟨(out i).2, ?_, fun x hx => ?_⟩, ?_⟩
  · rw [hn]
    exact_mod_cast Tally.succeeded_add_failed out n
  · simp [Tally.collected, hn]
  · rw [hn] at hi
    simp [Tally.collected, hi]
  · refine (hout i (hn ▸ hi)).id_eq ?_
    rw [List.getD_eq_getElem?_getD, hx]
    rfl
  · exact_mod_cast Tally.countP_results out hfailed

lemma accounted_int32_iff (hn : ids.length = n)
    (hout : ∀ i < n, Answers id status (ids.getD i none) (out i)) :
    Accounted id status ids (Int32.ofNat n).toInt (Int32.ofNat (Tally.collected out n).succeeded).toInt
        (Int32.ofNat (Tally.collected out n).failed).toInt (Tally.collected out n).results ↔
      n < 2 ^ 31 := by
  constructor
  · intro h
    have hbound := Int32.toInt_lt (Int32.ofNat n)
    rw [h.total_eq, hn] at hbound
    exact_mod_cast hbound
  · intro hlt
    have hsum := Tally.succeeded_add_failed out n
    rw [Int32.toInt_ofNat_of_lt hlt, Int32.toInt_ofNat_of_lt (by omega), Int32.toInt_ofNat_of_lt (by omega)]
    exact accounted_collected hn hout

def batchIDs (email : SendRequest → String → Email) (envs : Nat → CallEnv) (items : List (Option SendRequest)) :
    List (Option String) :=
  items.mapIdx fun i item => item.map fun req => (email req (envs i).generatedID).id

variable (email : SendRequest → String → Email) (envs : Nat → CallEnv) (items : List (Option SendRequest))

lemma length_batchIDs : (batchIDs email envs items).length = items.length := List.length_mapIdx

lemma getD_batchIDs (i : Nat) : (batchIDs email envs items).getD i none =
    ((items.getD i none).map fun req => email req (envs i).generatedID).map (·.id) := by
  simp only [batchIDs, List.getD_eq_getElem?_getD, List.getElem?_mapIdx, Option.map_map]
  cases items[i]? with
  | none => rfl
  | some item => rfl

end SendApi

section Batch

open MailBaby.Core SendApi

variable {envs : Nat → CallEnv} (hcalls : ∀ i, (envs i).result.isPanic = false) (sched : ∀ n, LockOrder n)

include hcalls

lemma handleBatchSend_accounted (h : Handler.EmailHandler) {r : Handler.Request} {req : BatchRequest}
    (hparse : h.parseBatch r = .ok req) :
    ∃ resp, (h.handleBatchSend r envs sched).1 = some ⟨200, .batch resp⟩ ∧
      Accounted Handler.SendEmailResponse.id Handler.SendEmailResponse.status
        (batchIDs Handler.requestToEmail envs req.emails) resp.total resp.succeeded resp.failed resp.results := by
  have hitem : ∀ i, ∃ out, (h.runItem r req envs i).1 = .ok out ∧
      Answers Handler.SendEmailResponse.id Handler.SendEmailResponse.status
        ((batchIDs Handler.requestToEmail envs req.emails).getD i none) out := by
    intro i
    rw [getD_batchIDs, ← id?_action h.codec (Handler.isAsync r req.async)]
    exact h.answerItem_answers _ (hcalls i)
  choose out hrun hout using hitem
  refine ⟨⟨_, _, _, (Tally.collected out req.emails.length).results⟩, ?_,
    accounted_collected (length_batchIDs _ _ _) fun i _ => hout i⟩
  simp only [Handler.EmailHandler.handleBatchSend, hparse]
  rw [fanOut_of_ok (fun i _ => hrun i)]
  rfl

lemma sendBatch_accounted (s : Rpc.Server) {req : BatchRequest} (hne : req.emails ≠ []) :
    ∃ resp, (s.sendBatch (some req) envs sched).1 = some (some resp, none) ∧
      resp.total = Int32.ofNat req.emails.length ∧
      (Accounted Rpc.SendMailResponse.id Rpc.SendMailResponse.status
          (batchIDs Rpc.protoToEmail envs req.emails) resp.total.toInt resp.succeeded.toInt resp.failed.toInt
          resp.results ↔
        req.emails.length < 2 ^ 31) := by
  have hitem : ∀ i, ∃ out, (s.runItem req envs i).1 = .ok out ∧
      Answers Rpc.SendMailResponse.id Rpc.SendMailResponse.status
        ((batchIDs Rpc.protoToEmail envs req.emails).getD i none) out := by
    intro i
    rw [getD_batchIDs, ← id?_action s.codec (req.async || (req.emails.getD i none).any (·.async))]
    exact s.answerItem_answers _ (hcalls i)
  choose out hrun hout using hitem
  refine ⟨⟨_, _, _, (Tally.collected out req.emails.length).results⟩, ?_, rfl,
    accounted_int32_iff (length_batchIDs _ _ _) fun i _ => hout i⟩
  simp only [Rpc.Server.sendBatch, if_neg (mt List.length_eq_zero_iff.mp hne)]
  rw [fanOut_of_ok (fun i _ => hrun i)]
  rfl

end Batch

end MailBaby

namespace MailBaby.Proofs

open Lib MailBaby.Core SendApi

/-- Items may be nil, invalid, fail or succeed, as long as no call panics. -/
theorem batch_accounted (h : Handler.EmailHandler) (s : Rpc.Server) (envs : Nat → CallEnv)
    (sched : ∀ n, LockOrder n) (hcalls : ∀ i, (envs i).result.isPanic = false) :
    (∀ r req, h.parseBatch r = .ok req → ∃ resp, (h.handleBatchSend r envs sched).1 = some ⟨200, .batch resp⟩ ∧
      Accounted Handler.SendEmailResponse.id Handler.SendEmailResponse.status
        (batchIDs Handler.requestToEmail envs req.emails) resp.total resp.succeeded resp.failed resp.results) ∧
    ∀ req : BatchRequest, req.emails ≠ [] → ∃ resp, (s.sendBatch (some req) envs sched).1 = some (some resp, none) ∧
      (Accounted Rpc.SendMailResponse.id Rpc.SendMailResponse.status
          (batchIDs Rpc.protoToEmail envs req.emails) resp.total.toInt resp.succeeded.toInt resp.failed.toInt
          resp.results ↔
        req.emails.length < 2 ^ 31) := by
  refine ⟨fun r req hparse => handleBatchSend_accounted hcalls sched h hparse, fun req hne => ?_⟩
  obtain ⟨resp, hrun, -, hiff⟩ := sendBatch_accounted hcalls sched s hne
  exact ⟨resp, hrun, hiff⟩

def nilRequest : Handler.Request := { body := utf8 "\x7b\"emails\":[null]\x7d".toList }

def mixedBatch : BatchRequest := { emails := [none, some (mailRequest false)] }

theorem batch_accounted_mixed :
    (∀ i, (outside (.returns (some ⟨"timeout"⟩)) i).result.isPanic = false) ∧
    (∃ req resp, mailApi.handler.parseBatch nilRequest = .ok req ∧
      (mailApi.handler.handleBatchSend nilRequest (outside (.returns (some ⟨"timeout"⟩))) .inOrder).1 =
        some ⟨200, .batch resp⟩ ∧
      Accounted Handler.SendEmailResponse.id Handler.SendEmailResponse.status
        (batchIDs Handler.requestToEmail (outside (.returns (some ⟨"timeout"⟩))) req.emails)
        resp.total resp.succeeded resp.failed resp.results) ∧
    ∃ resp, (mailApi.server.sendBatch (some mixedBatch) (outside (.returns (some ⟨"timeout"⟩))) .inOrder).1 =
        some (some resp, none) ∧
      Accounted Rpc.SendMailResponse.id Rpc.SendMailResponse.status [none, some "42"]
        resp.total.toInt resp.succeeded.toInt resp.failed.toInt resp.results := by
  have hcalls : ∀ i, (outside (.returns (some ⟨"timeout"⟩)) i).result.isPanic = false := fun _ => rfl
  obtain ⟨hhttp, hrpc⟩ := batch_accounted mailApi.handler mailApi.server _ .inOrder hcalls
  have hok : (mailApi.handler.parseBatch nilRequest).isOk = true := by decide +kernel
  obtain ⟨req, hparse⟩ : ∃ req, mailApi.handler.parseBatch nilRequest = .ok req := by
    cases hparse : mailApi.handler.parseBatch nilRequest with
    | error resp =>
      rw [hparse] at hok
      cases hok
    | ok req => exact ⟨req, rfl⟩
  obtain ⟨resp, hrun, haccounted⟩ := hhttp _ req hparse
  obtain ⟨resp', hrun', hiff⟩ := hrpc mixedBatch (List.cons_ne_nil _ _)
  exact ⟨hcalls, ⟨req, resp, hparse, hrun, haccounted⟩, resp', hrun', hiff.mpr (by decide)⟩

/-- The total of a batch of `2^31` nil items. -/
theorem batch_total_wraps :
    ∃ resp, (mailApi.server.sendBatch (some { emails := List.replicate (2 ^ 31) none })
        (outside (.returns none)) .inOrder).1 = some (some resp, none) ∧
      resp.total.toInt = -2 ^ 31 ∧ (List.replicate (2 ^ 31) (none : Option SendRequest)).length = 2 ^ 31 := by
  have hwraps : ∀ n, 0 < n → ∃ resp, (mailApi.server.sendBatch (some { emails := List.replicate n none })
      (outside (.returns none)) .inOrder).1 = some (some resp, none) ∧ resp.total = Int32.ofNat n := by
    intro n hn
    have hcalls : ∀ i, (outside (.returns none) i).result.isPanic = false := fun _ => rfl
    have hne : ({ emails := List.replicate n none } : BatchRequest).emails ≠ [] := by simp [hn.ne']
    obtain ⟨resp, hrun, htotal, -⟩ := sendBatch_accounted hcalls .inOrder mailApi.server hne
    rw [List.length_replicate] at htotal
    exact ⟨resp, hrun, htotal⟩
  obtain ⟨resp, hrun, htotal⟩ := hwraps (2 ^ 31) (by decide)
  refine ⟨resp, hrun, ?_, List.length_replicate⟩
  rw [htotal]
  decide

end MailBaby.Proofs
