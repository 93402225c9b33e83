import Switchboard.Digest.NameId
import Switchboard.Message

/-!
# Contact identity

A contact is known by the digits of their number on platforms that use telephone numbers, and by
platform and address elsewhere. The id of a contact's card is made from this key, so first messages
that arrive together meet on one card.
-/

namespace Switchboard

/-- The key of a contact. -/
def contactKey (p : Platform) (sender : String) : String :=
  let digits := phoneDigits sender
  if p.usesPhone && !digits.isEmpty then "phone:" ++ digits else p.name ++ ":" ++ sender

/-- The id of the card of a contact who writes for the first time. -/
def contactCardId (p : Platform) (sender : String) : String := Digest.nameId (contactKey p sender)

end Switchboard
