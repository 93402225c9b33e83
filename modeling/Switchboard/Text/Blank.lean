/-!
# Blank characters

White space as the Unicode property of that name, and the three readings of a text that depend on
it: trimming both ends, the blank test, and the words between blanks.
-/

namespace Switchboard.Text

/-- Membership of a code point in a list of closed ranges. -/
def inRanges (ranges : List (Nat × Nat)) (code : Nat) : Bool :=
  ranges.any fun range => range.1 ≤ code && code ≤ range.2

/-- The code points with the White_Space property, as closed ranges in ascending order. -/
def blankRanges : List (Nat × Nat) :=
  [(0x09, 0x0D), (0x20, 0x20), (0x85, 0x85), (0xA0, 0xA0), (0x1680, 0x1680), (0x2000, 0x200A),
   (0x2028, 0x2029), (0x202F, 0x202F), (0x205F, 0x205F), (0x3000, 0x3000)]

def isBlankChar (c : Char) : Bool := inRanges blankRanges c.toNat

/-- The characters after the leading blanks. -/
def dropBlanks (cs : List Char) : List Char := cs.dropWhile isBlankChar

/-- The characters without the blanks at either end. -/
def trimChars (cs : List Char) : List Char := (dropBlanks (dropBlanks cs).reverse).reverse

def trim (s : String) : String := String.ofList (trimChars s.toList)

/-- A text is blank when it holds nothing but blanks; the empty text is blank. -/
def isBlank (s : String) : Bool := s.toList.all isBlankChar

/-- The maximal stretches of characters that are not blank, from left to right. -/
def words : List Char → List (List Char)
  | [] => []
  | c :: cs =>
    if isBlankChar c then words cs
    else match cs with
      | [] => [[c]]
      | d :: _ =>
        if isBlankChar d then [c] :: words cs
        else match words cs with
          | [] => [[c]]
          | w :: ws => (c :: w) :: ws

theorem isBlankChar_of_isWhitespace {c : Char} (h : c.isWhitespace = true) :
    isBlankChar c = true := by
  simp only [Char.isWhitespace, Bool.or_eq_true, decide_eq_true_eq] at h
  rcases h with ((h | h) | h) | h <;> subst h <;> decide

/-- Dropping leading blanks leaves nothing exactly when there is nothing but blanks. -/
theorem dropBlanks_eq_nil_iff {cs : List Char} : dropBlanks cs = [] ↔ cs.all isBlankChar := by
  induction cs with
  | nil => simp [dropBlanks]
  | cons c cs ih =>
    simp only [dropBlanks, List.dropWhile_cons] at ih ⊢
    cases h : isBlankChar c <;> simp_all

theorem trimChars_eq_nil_iff {cs : List Char} : trimChars cs = [] ↔ cs.all isBlankChar := by
  simp only [trimChars, List.reverse_eq_nil_iff, dropBlanks_eq_nil_iff, List.all_reverse]
  induction cs with
  | nil => simp [dropBlanks]
  | cons c cs ih =>
    simp only [dropBlanks, List.dropWhile_cons] at ih ⊢
    cases h : isBlankChar c <;> simp_all

end Switchboard.Text
