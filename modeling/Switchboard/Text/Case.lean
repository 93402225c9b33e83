import Switchboard.Text.Case.Context
import Switchboard.Text.Case.Lower
import Switchboard.Text.Case.Upper

/-!
# Letter case

Lower and upper case of whole texts by the mappings of the Unicode standard, and the comparison of
letters that disregards case. A text may grow: some letters have an upper-case form of several
letters, and the small sigma at the end of a word differs from the one inside it.
-/

namespace Switchboard.Text

namespace Case

/-- The shift of the run that a code point belongs to. -/
def shiftIn (runs : List (Nat × Nat × Nat × Int)) (code : Nat) : Option Int :=
  (runs.find? fun (first, last, step, _) =>
    first ≤ code && code ≤ last && (code - first) % step == 0).map (·.2.2.2)

def applyShift (code : Nat) : Option Int → Char
  | some shift => Char.ofNat ((code : Int) + shift).toNat
  | none => Char.ofNat code

/-- The lower-case form of a letter where it is one letter. -/
def lowerChar (c : Char) : Char := applyShift c.toNat (shiftIn lowerRuns c.toNat)

/-- The lower-case form of a letter on its own; the dotted capital I keeps its dot as a mark. -/
def lowerAlone (c : Char) : List Char :=
  if c = 'İ' then ['i', Char.ofNat 0x307] else [lowerChar c]

/-- The upper-case form of a letter. -/
def upperChars (c : Char) : List Char :=
  match upperSequences.find? (·.1 == c.toNat) with
  | some (_, codes) => codes.map Char.ofNat
  | none => [applyShift c.toNat (shiftIn upperRuns c.toNat)]

/-- Whether the first character that is not passed over is a cased letter. -/
def nearestIsCased (cs : List Char) : Bool :=
  ((cs.dropWhile isIgnorable).head?).any isCased

/-- Lower case with the characters already read at hand, nearest first. -/
def lowerFrom : List Char → List Char → List Char
  | _, [] => []
  | before, c :: cs =>
    let form :=
      if c = 'Σ' then
        -- a word ends here: a letter stands before and none after
        if nearestIsCased before && !nearestIsCased cs then ['ς'] else ['σ']
      else lowerAlone c
    form ++ lowerFrom (c :: before) cs

end Case

/-- The text in lower case. -/
def lower (s : String) : String := String.ofList (Case.lowerFrom [] s.toList)

/-- The text in lower case, each letter taken on its own. -/
def lowerLetters (s : String) : String := String.ofList (s.toList.flatMap Case.lowerAlone)

/-- The text in upper case. -/
def upper (s : String) : String := String.ofList (s.toList.flatMap Case.upperChars)

/-- The text with its ASCII letters in lower case. -/
def lowerAscii (s : String) : String := String.ofList (s.toList.map Char.toLower)

/-- The small letters that share a class with another small letter, each with that letter. -/
def Case.foldPairs : List (Nat × Nat) :=
  [(0xB5, 0x3BC), (0x17F, 0x73), (0x345, 0x3B9), (0x3C2, 0x3C3), (0x3D0, 0x3B2), (0x3D1, 0x3B8),
   (0x3D5, 0x3C6), (0x3D6, 0x3C0), (0x3F0, 0x3BA), (0x3F1, 0x3C1), (0x3F5, 0x3B5),
   (0x1C80, 0x432), (0x1C81, 0x434), (0x1C82, 0x43E), (0x1C83, 0x441), (0x1C84, 0x442),
   (0x1C85, 0x442), (0x1C86, 0x44A), (0x1C87, 0x463), (0x1C88, 0xA64B), (0x1E9B, 0x1E61),
   (0x1FBE, 0x3B9)]

/-- One representative per class of letters that differ in case only. -/
def foldChar (c : Char) : Char :=
  let d := Case.lowerChar c
  match Case.foldPairs.lookup d.toNat with
  | some code => Char.ofNat code
  | none => d

/-- Whether two ASCII texts agree up to case; other characters have to be the same. -/
def eqIgnoreAsciiCase (s t : String) : Bool := lowerAscii s == lowerAscii t

end Switchboard.Text
