import Switchboard.Digest.Hex
import Switchboard.Digest.Sha1
import Switchboard.Text.Utf8

/-!
# Ids of names

A name has a fixed id, made from its SHA-1 digest within the space of object names. An id is written
in five groups of hexadecimal digits.
-/

namespace Switchboard.Digest

/-- The space of object names. -/
def objectSpace : List UInt8 :=
  [0x6b, 0xa7, 0xb8, 0x12, 0x9d, 0xad, 0x11, 0xd1, 0x80, 0xb4, 0x00, 0xc0, 0x4f, 0xd4, 0x30, 0xc8]

/-- Marks an id as made from a name, by its seventh and ninth byte. -/
def markNamed (bytes : List UInt8) : List UInt8 :=
  bytes.mapIdx fun i b =>
    if i = 6 then b &&& 0x0f ||| 0x50 else if i = 8 then b &&& 0x3f ||| 0x80 else b

/-- The digits in groups of eight, four, four, four and twelve. -/
def grouped (digits : List Char) : List Char :=
  digits.take 8 ++ '-' :: (digits.drop 8).take 4 ++ '-' :: (digits.drop 12).take 4
    ++ '-' :: (digits.drop 16).take 4 ++ '-' :: digits.drop 20

/-- The id of a name. -/
def nameId (name : String) : String :=
  String.ofList (grouped (toHex
    (markNamed ((Sha1.hash (objectSpace ++ Text.utf8 name)).take 16))))

end Switchboard.Digest
