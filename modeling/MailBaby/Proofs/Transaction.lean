import MailBaby.Sender.Transaction

/-!
# What a receiver accepts

Over the life of a connection the receiver accepts the messages of the calls that returned nil, each with all
of its recipients and in the order of the calls. A message of a call that failed is accepted only when the
reply to its last line got lost.
-/

namespace MailBaby.Sender.Client

open Lib

variable {env : TransactionEnv} {request : Request} {reply : Reply} {call : SmtpCall} {s : Receiver}
  {failed : GoError → Transaction Unit} {Q : Unit → Receiver → Prop} {E : Receiver → Prop}

/-! ### Requests -/

/-- No content is awaited. -/
def Receiver.Ready (s : Receiver) : Prop := ∀ call, s.stage ≠ .receiving call

def Request.ends : Request → Bool
  | message _ => true
  | _ => false

/-- What the receiver has accepted when `n` calls have returned nil. -/
def Accounted (us : List Use) (before : List SmtpCall) (n : Nat) (accepted : List SmtpCall) : Prop :=
  accepted = before ++ (us.map Use.call).take n ∨
    accepted = before ++ (us.map Use.call).take (n + 1) ∧ ∃ u, us[n]? = some u ∧ u.env.close.Lost

end MailBaby.Sender.Client

namespace MailBaby.Proofs

open Sender.Client

end MailBaby.Proofs
