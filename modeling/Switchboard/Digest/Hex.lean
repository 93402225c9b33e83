import Switchboard.Json.Token

/-!
# Hexadecimal text

Two digits for each byte, the letters small when written and of any case when read.
-/

namespace Switchboard.Digest

def hexDigits (b : UInt8) : List Char :=
  [Nat.digitChar (b.toNat / 16), Nat.digitChar (b.toNat % 16)]

def toHex (bytes : List UInt8) : List Char := bytes.flatMap hexDigits

/-- The bytes of an even number of digits. -/
def ofHex? : List Char → Option (List UInt8)
  | [] => some []
  | [_] => none
  | a :: b :: rest => do
    let high ← Json.hexValue? a
    let low ← Json.hexValue? b
    return UInt8.ofNat (high * 16 + low) :: (← ofHex? rest)

end Switchboard.Digest
