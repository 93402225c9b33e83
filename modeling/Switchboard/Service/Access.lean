import Switchboard.Digest.Hex
import Switchboard.Digest.Hmac
import Switchboard.Http.Message
import Switchboard.Text.Utf8
import Switchboard.Service.Fault

/-!
# Access

How a platform shows that a request is its own: by a signature of the body, by a secret token, or,
when it subscribes, by a token in the query. Without a secret there is no check, but no subscription
either.
-/

namespace Switchboard.Service

/-- The header that holds the signature of a body. -/
def signatureHeader : String := "x-hub-signature-256"

/-- The header that holds the secret token. -/
def tokenHeader : String := "x-telegram-bot-api-secret-token"

/-- The query of a subscription. -/
structure Handshake where
  mode : Option String
  token : Option String
  challenge : Option String

/-- The challenge is returned to whoever subscribes with the expected token. -/
def Handshake.reply (expected : Option String) (h : Handshake) : Except Fault String :=
  match expected with
  | none => .error .forbidden
  | some secret =>
    if h.mode = some "subscribe" ∧ h.token = some secret then .ok (h.challenge.getD "")
    else .error .forbidden

/-- The digest in a signature header. -/
def signedDigest? (header : String) : Option (List UInt8) :=
  (Text.afterPrefix? "sha256=".toList header.toList).bind Digest.ofHex?

/-- A body must be signed with the secret. -/
def checkSignature (secret : Option String) (r : Http.Request) : Except Fault Unit :=
  match secret with
  | none => .ok ()
  | some secret =>
    match r.plainHeader? signatureHeader with
    | none => .error (.unauthorized "missing signature")
    | some header =>
      match signedDigest? header with
      | none => .error (.unauthorized "malformed signature")
      | some digest =>
        if digest = Digest.hmacSha256 (Text.utf8 secret) r.body then .ok ()
        else .error (.unauthorized "signature mismatch")

/-- A request must hold the secret token; a header that is missing counts as empty. -/
def checkToken (secret : Option String) (r : Http.Request) : Except Fault Unit :=
  match secret with
  | none => .ok ()
  | some secret =>
    if (r.plainHeader? tokenHeader).getD "" = secret then .ok ()
    else .error (.unauthorized "secret token mismatch")

end Switchboard.Service
