import Switchboard.Text.Blank
import Switchboard.Text.Case

/-!
# Answers

What a contact may answer to a question: any text that is not blank, or an address of electronic
mail.
-/

namespace Switchboard

inductive AnswerKind where
  | text
  | email
  deriving DecidableEq, Repr

namespace AnswerKind

/-- The kind a node asks for; anything but the word email asks for text. -/
def read (s : Option String) : AnswerKind :=
  if s.map (fun s => Text.lowerAscii (Text.trim s)) = some "email" then .email else .text

/-- A dot with characters on both sides of it. -/
def hasInnerDot (cs : List Char) : Bool := (cs.drop 1).dropLast.contains '.'

/-- A part, an at sign, and a part with an inner dot; no other at sign and no blank. -/
def isAddress (cs : List Char) : Bool :=
  match cs.takeWhile (· != '@'), cs.dropWhile (· != '@') with
  | [], _ | _, [] => false
  | _, _ :: domain => !cs.any Text.isBlankChar && !domain.contains '@' && hasInnerDot domain

/-- Whether an answer is of the kind; blanks around it do not count. -/
def accepts (kind : AnswerKind) (answer : String) : Bool :=
  !Text.isBlank answer &&
    match kind with
    | .text => true
    | .email => isAddress (Text.trimChars answer.toList)

end AnswerKind

end Switchboard
