import Mathlib.Data.List.Dedup
import MailBaby.Core.Send
import MailBaby.Lib.Encoding
import MailBaby.Runtime.Engine

/-!
# Metric labels

The label values that the metric helpers give to the Prometheus vectors, and the two paths on which the
account of an email becomes one. A nil `Metrics` gives none; here the metrics are enabled. The hash of
long values is a parameter.
-/

namespace MailBaby

open Lib

namespace Metrics

def maxLabelValueLen : Nat := 64

def maxAllowedAccountLabelValues : Nat := 100

def isForbidden (c : Char) : Bool := c = '\n' || c = '\r' || c = '"' || c = '\\'

def sanitizeLabel (sha256 : Bytes → Bytes) (v : String) : String :=
  let v := trimSpace v
  if v = "" then "default"
  else
    let v := v.toList.filter fun r => !isForbidden r
    if (utf8 v).length > maxLabelValueLen then
      "h_" ++ String.ofList (Hex.encode ((sha256 (utf8 v)).take 8))
    else String.ofList v

/-- The value of the label `account` in one update. -/
def accountLabel (sha256 : Bytes → Bytes) : Metric → Option String
  | .emailsSent account _ => some (sanitizeLabel sha256 account)
  | .emailDuration account => some (sanitizeLabel sha256 account)
  | .emailRecipients account _ count => if count ≤ 0 then none else some (sanitizeLabel sha256 account)
  | .queueReceived .. | .queueProcessDuration .. | .queueProcessed .. | .queueRetried ..
  | .queueDeadLetter .. => none

def accountLabels (sha256 : Bytes → Bytes) (ms : List Metric) : List String :=
  ms.filterMap (accountLabel sha256)

inductive Pass
  | sendSync (s : Core.SendService) (env : Core.CallEnv) (email : Email)
  | process (e : Engine) (env : Env) (w : World) (email : Email)

namespace Pass

def email : Pass → Email
  | sendSync _ _ email => email
  | process _ _ _ email => email

def metrics : Pass → List Metric
  | sendSync s env email => (s.sendSync email env {}).2.metrics
  | process e env w email =>
    (metricsMiddleware e.queue.driver.name e.queue.name e.sendWithRetry email env
      { w with metrics := [] }).2.metrics

/-- The email was handed to the sender, which neither panicked in a call nor was missing. -/
def returned : Pass → Bool
  | sendSync s env _ => s.sender && match env.result with
    | .returns _ => true
    | .panics _ => false
  | process e env w email =>
    match (e.sendWithRetry email env
      ({ w with metrics := [] }.record (.queueReceived e.queue.driver.name e.queue.name))).1 with
    | .ok _ => true
    | .error _ => false

end Pass

/-- The values of the label `account` that a sequence of emails leaves in the metric vectors. -/
def recordedLabels (sha256 : Bytes → Bytes) (passes : List Pass) : List String :=
  (passes.flatMap fun p => accountLabels sha256 p.metrics).dedup

end Metrics

end MailBaby
