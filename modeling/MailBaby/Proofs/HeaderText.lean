import Mathlib.Data.List.SplitBy
import MailBaby.Proofs.FromHeader

/-!
# Header text

A text that is written as it is may contain what its reader takes for an encoded word.
-/

namespace MailBaby.Lib.Address

variable {s : Text}

end MailBaby.Lib.Address

namespace MailBaby.Proofs

open Lib Lib.Mime

end MailBaby.Proofs
