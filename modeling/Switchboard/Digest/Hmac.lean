import Switchboard.Digest.Sha256

/-!
# Keyed digests

The keyed form of SHA-256. Keys longer than a block count by their digest.
-/

namespace Switchboard.Digest

def blockBytes : Nat := 64

/-- The key with zeros up to the length of a block. -/
def blockKey (key : List UInt8) : List UInt8 :=
  let key := if blockBytes < key.length then Sha256.hash key else key
  key ++ List.replicate (blockBytes - key.length) 0

/-- The digest of a message under a key. -/
def hmacSha256 (key message : List UInt8) : List UInt8 :=
  let key := blockKey key
  Sha256.hash (key.map (· ^^^ 0x5c) ++ Sha256.hash (key.map (· ^^^ 0x36) ++ message))

end Switchboard.Digest
