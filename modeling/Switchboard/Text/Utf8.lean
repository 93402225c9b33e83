/-!
# Bytes of a text

The bytes of a text in UTF-8 and the text that arbitrary bytes stand for, where every stretch that
cannot be part of a well-formed text is read as one replacement character.
-/

namespace Switchboard.Text

/-- The bytes of a text in UTF-8. -/
def utf8 (s : String) : List UInt8 := s.toUTF8.toList

def ofUtf8? (bytes : List UInt8) : Option String := String.fromUTF8? ⟨bytes.toArray⟩

/-- How many bytes follow a first byte, and the values that the second byte may take. -/
def continuation? (first : UInt8) : Option (Nat × UInt8 × UInt8) :=
  if 0xC2 ≤ first ∧ first ≤ 0xDF then some (1, 0x80, 0xBF)
  else if first = 0xE0 then some (2, 0xA0, 0xBF)
  else if first = 0xED then some (2, 0x80, 0x9F)
  else if 0xE1 ≤ first ∧ first ≤ 0xEF then some (2, 0x80, 0xBF)
  else if first = 0xF0 then some (3, 0x90, 0xBF)
  else if 0xF1 ≤ first ∧ first ≤ 0xF3 then some (3, 0x80, 0xBF)
  else if first = 0xF4 then some (3, 0x80, 0x8F)
  else none

/-- The length of the longest start of `bytes` that could continue a character after `first`. -/
def continuationLength (first : UInt8) (bytes : List UInt8) : Nat :=
  match continuation? first, bytes with
  | some (count, lo, hi), second :: rest =>
    if lo ≤ second ∧ second ≤ hi then
      1 + ((rest.take (count - 1)).takeWhile fun b => 0x80 ≤ b ∧ b ≤ 0xBF).length
    else 0
  | _, _ => 0

def lossyChars : List UInt8 → List Char
  | [] => []
  | first :: rest =>
    let n := if first < 0x80 then 0 else continuationLength first rest
    let char := match ofUtf8? (first :: rest.take n) with
      | some s => s.toList.headD '\uFFFD'
      | none => '\uFFFD'
    char :: lossyChars (rest.drop n)
  termination_by bytes => bytes.length
  decreasing_by
    simp only [List.length_cons, List.length_drop]
    omega

/-- The text that bytes stand for, with a replacement character for each malformed stretch. -/
def ofUtf8Lossy (bytes : List UInt8) : String := String.ofList (lossyChars bytes)

end Switchboard.Text
