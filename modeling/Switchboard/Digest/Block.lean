/-!
# Message blocks

What the digests of this library share: a message is a sequence of bytes, completed by a mark, zeros
and its length in bits to whole blocks of sixteen words.
-/

namespace Switchboard.Digest

/-- A number as eight bytes, the greatest place first. -/
def lengthBytes (n : Nat) : List UInt8 :=
  (List.range 8).map fun i => UInt8.ofNat (n >>> (8 * (7 - i)))

/-- The number of zeros between the mark and the length. -/
def paddingZeros (length : Nat) : Nat := (119 - length % 64) % 64

/-- The message completed to whole blocks. -/
def padMessage (message : List UInt8) : List UInt8 :=
  message ++ 0x80 :: List.replicate (paddingZeros message.length) 0
    ++ lengthBytes (8 * message.length)

def wordOf (a b c d : UInt8) : UInt32 :=
  a.toUInt32 <<< 24 ||| b.toUInt32 <<< 16 ||| c.toUInt32 <<< 8 ||| d.toUInt32

/-- The words of a sequence of bytes. -/
def wordsOf : List UInt8 → List UInt32
  | a :: b :: c :: d :: rest => wordOf a b c d :: wordsOf rest
  | _ => []

/-- The first `count` blocks of sixteen words. -/
def blocksOf : Nat → List UInt32 → List (List UInt32)
  | 0, _ => []
  | count + 1, ws => ws.take 16 :: blocksOf count (ws.drop 16)

def blocks (message : List UInt8) : List (List UInt32) :=
  let ws := wordsOf (padMessage message)
  blocksOf (ws.length / 16) ws

def rotateLeft (x : UInt32) (n : UInt32) : UInt32 := x <<< n ||| x >>> (32 - n)

def rotateRight (x : UInt32) (n : UInt32) : UInt32 := x >>> n ||| x <<< (32 - n)

/-- The bytes of a word, the greatest place first. -/
def bytesOf (w : UInt32) : List UInt8 :=
  [(w >>> 24).toUInt8, (w >>> 16).toUInt8, (w >>> 8).toUInt8, w.toUInt8]

/-- Extends a block by `count` words, each made from those before it, latest first. -/
def extend (next : List UInt32 → UInt32) : Nat → List UInt32 → List UInt32
  | 0, reversed => reversed
  | count + 1, reversed => extend next count (next reversed :: reversed)

theorem length_padMessage (message : List UInt8) : (padMessage message).length % 64 = 0 := by
  simp only [padMessage, List.length_append, List.length_cons, List.length_replicate, paddingZeros,
    lengthBytes, List.length_map, List.length_range]
  omega

end Switchboard.Digest
