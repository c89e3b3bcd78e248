import MailBaby.Lib.Wire
import MailBaby.Proofs.Sending
import MailBaby.Sender.EmailJson

/-!
# The size of emails

`Send` compares the limit of the account with the length of the email as JSON, while the client is handed
the message that `BuildMIME` writes.
-/

namespace MailBaby.Sender

open Lib Lib.Mime

namespace AccountSender

variable {a : AccountSender} {codec : Codec} {email : Email} {env : SendEnv} {s : AccountState}

structure Reaches (a : AccountSender) (env : SendEnv) : Prop where
  token : (if a.tokens.isSome then env.ctxErr else none) = none
  connection : env.acquire = none

end AccountSender

end MailBaby.Sender

namespace MailBaby.Proofs

open Lib Lib.Mime Smtp Sender

end MailBaby.Proofs
