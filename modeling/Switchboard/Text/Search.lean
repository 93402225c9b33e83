/-!
# Searching in texts

Substrings and cuts on lists of characters, each by recursion on the text.
-/

namespace Switchboard.Text

/-- The rest of the text after a given start. -/
def afterPrefix? : List Char → List Char → Option (List Char)
  | [], cs => some cs
  | _ :: _, [] => none
  | p :: ps, c :: cs => if p = c then afterPrefix? ps cs else none

/-- Whether `part` occurs somewhere in the text. -/
def hasPart (part : List Char) : List Char → Bool
  | [] => part.isEmpty
  | c :: cs => part.isPrefixOf (c :: cs) || hasPart part cs

def contains (s part : String) : Bool := hasPart part.toList s.toList

/-- The text up to the first character that satisfies the test. -/
def before (stop : Char → Bool) (cs : List Char) : List Char := cs.takeWhile fun c => !stop c

/-- The text after the last character that satisfies the test, or the whole text. -/
def afterLast (sep : Char → Bool) (cs : List Char) : List Char :=
  (cs.reverse.takeWhile fun c => !sep c).reverse

/-- The pieces between the characters that satisfy the test; there is always at least one. -/
def splitAt (sep : Char → Bool) : List Char → List (List Char)
  | [] => [[]]
  | c :: cs =>
    match splitAt sep cs with
    | [] => [[]]
    | piece :: pieces => if sep c then [] :: piece :: pieces else (c :: piece) :: pieces

/-- The longest start of at most `max` characters. -/
def takeChars (s : String) (max : Nat) : String := String.ofList (s.toList.take max)

/-- The text without the slashes at its end. -/
def dropFinalSlashes (s : String) : String :=
  String.ofList (s.toList.reverse.dropWhile (· = '/')).reverse

theorem hasPart_iff {part cs : List Char} : hasPart part cs = true ↔ part <:+: cs := by
  induction cs with
  | nil => simp [hasPart]
  | cons c cs ih => simp [hasPart, ih, List.infix_cons_iff]

end Switchboard.Text
