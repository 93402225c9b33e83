import Switchboard.Digest.Block

/-!
# SHA-1

The digest of twenty bytes from which ids of names are made.
-/

namespace Switchboard.Digest.Sha1

def initial : List UInt32 := [0x67452301, 0xefcdab89, 0x98badcfe, 0x10325476, 0xc3d2e1f0]

/-- The next word of a schedule, from the sixteen latest. -/
def nextWord (reversed : List UInt32) : UInt32 :=
  let w := fun i => reversed.getD i 0
  rotateLeft (w 2 ^^^ w 7 ^^^ w 13 ^^^ w 15) 1

def schedule (block : List UInt32) : List UInt32 := (extend nextWord 64 block.reverse).reverse

/-- The function and the constant of a round. -/
def mix (number : Nat) (b c d : UInt32) : UInt32 × UInt32 :=
  if number < 20 then ((b &&& c) ||| (~~~b &&& d), 0x5a827999)
  else if number < 40 then (b ^^^ c ^^^ d, 0x6ed9eba1)
  else if number < 60 then ((b &&& c) ||| (b &&& d) ||| (c &&& d), 0x8f1bbcdc)
  else (b ^^^ c ^^^ d, 0xca62c1d6)

/-- One round; the state is always five words. -/
def round (state : List UInt32) (input : UInt32 × Nat) : List UInt32 :=
  match state with
  | [a, b, c, d, e] =>
    let (f, k) := mix input.2 b c d
    [rotateLeft a 5 + f + e + k + input.1, a, rotateLeft b 30, c, d]
  | other => other

def compress (state block : List UInt32) : List UInt32 :=
  List.zipWith (· + ·) state ((schedule block).zipIdx.foldl round state)

/-- The digest of a message. -/
def hash (message : List UInt8) : List UInt8 :=
  ((blocks message).foldl compress initial).flatMap bytesOf

end Switchboard.Digest.Sha1
