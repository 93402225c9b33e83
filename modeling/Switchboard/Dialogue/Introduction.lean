import Switchboard.Text.Blank
import Switchboard.Text.Case
import Switchboard.Text.Search
import Switchboard.Text.WordChar

/-!
# Introductions

How people say their name, and the name in what they say. An introduction is a set of phrases with a
name behind it, or any other search for the name; other answers are taken as the name itself if they
are short, and cut if they are long.
-/

namespace Switchboard

inductive Introduction where
  /-- The name follows one of these phrases and a blank. -/
  | phrases (ps : List (List Char))
  /-- No part of the answer is known to be the name. -/
  | nameless
  /-- The words with the name are found in a way of their own. -/
  | search (find? : List Char → Option (List Char))

namespace Introduction

/-- The rest of the text after a phrase, compared without regard to case. -/
def afterPhrase? : List Char → List Char → Option (List Char)
  | [], cs => some cs
  | _ :: _, [] => none
  | p :: ps, c :: cs =>
    if Text.foldChar p = Text.foldChar c then afterPhrase? ps cs else none

/-- What follows a phrase and at least one blank, up to the end of the line. -/
def tailAfter? (phrase cs : List Char) : Option (List Char) :=
  match afterPhrase? phrase cs with
  | some (c :: rest) =>
    if Text.isBlankChar c then
      match Text.dropBlanks rest with
      | [] => none
      | tail => some (tail.takeWhile (· != '\n'))
    else none
  | _ => none

/-- What follows the first phrase that begins at a word boundary, from left to right. -/
def tailFrom? (ps : List (List Char)) : Option Char → List Char → Option (List Char)
  | _, [] => none
  | before, c :: cs =>
    let here :=
      if Text.atBoundary before (c :: cs) then ps.findSome? (tailAfter? · (c :: cs)) else none
    match here with
    | some tail => some tail
    | none => tailFrom? ps (some c) cs

/-- The words that may hold the name. -/
def tail? (i : Introduction) (answer : List Char) : Option (List Char) :=
  match i with
  | phrases ps => tailFrom? ps none answer
  | nameless => none
  | search find? => find? answer

def spanish : Introduction :=
  .phrases ["me llamo".toList, "mi nombre es".toList, "mi nombre:".toList]

def english : Introduction :=
  .phrases ["my name is".toList, "my name's".toList, "call me".toList]

def portuguese : Introduction :=
  .phrases ["meu nome é".toList, "me chamo".toList, "chamo-me".toList]

def common : List Introduction := [spanish, english, portuguese]

/-- Whether round and square brackets pair up, those that are escaped apart. -/
def bracketsPair : List Char → List Char → Bool
  | stack, [] => stack.isEmpty
  | stack, '\\' :: _ :: cs => bracketsPair stack cs
  | stack, c :: cs =>
    if c = '(' ∨ c = '[' then bracketsPair (c :: stack) cs
    else if c = ')' then
      match stack with
      | '(' :: stack => bracketsPair stack cs
      | _ => false
    else if c = ']' then
      match stack with
      | '[' :: stack => bracketsPair stack cs
      | _ => false
    else bracketsPair stack cs

/-- The start of a written introduction: a word boundary, in any case. -/
def patternStart : List Char := "(?i)\\b".toList

/-- The end of a written introduction: blanks, and the name. -/
def patternEnd : List Char := "\\s+(?P<name>.+)".toList

/-- An introduction written as a pattern: a phrase between the usual start and end. A pattern
without a place for the name knows no name. -/
def read? (s : String) : Option Introduction :=
  let cs := s.toList
  if !bracketsPair [] cs then none
  else match Text.afterPrefix? patternStart cs with
    | some rest =>
      match Text.afterPrefix? patternEnd.reverse rest.reverse with
      | some phrase => some (.phrases [phrase.reverse])
      | none => some .nameless
    | none => some .nameless

end Introduction

/-- Words that end a name. -/
def connectors : List String := ["y", "e", "and", "but", "pero", "mas", "que", "from"]

def isConnector (word : List Char) : Bool :=
  connectors.contains (Text.lower (String.ofList word))

/-- The marks that end a name. -/
def endsName (c : Char) : Bool := [',', '.', '!', '?', ';', ':', '\n'].contains c

/-- The greatest number of words in a name. -/
def maxNameWords : Nat := 3

/-- The greatest number of characters of an answer that is kept whole. -/
def maxNameChars : Nat := 50

/-- The words of a name at the start of a text: up to three, before a mark or a connector. -/
def nameWords (cs : List Char) : List (List Char) :=
  ((Text.words (Text.before endsName cs)).takeWhile fun w => !isConnector w).take maxNameWords

/-- The name at the start of a text, with single spaces. -/
def leadingName (cs : List Char) : List Char := [' '].intercalate (nameWords cs)

/-- The name an introduction finds. -/
def Introduction.name? (i : Introduction) (answer : List Char) : Option (List Char) :=
  ((i.tail? answer).map leadingName).filter fun name => !name.isEmpty

/-- The name in an answer: the first one that an introduction finds, else the answer itself, cut if
it has many words and is long. -/
def givenName (introductions : List Introduction) (answer : String) : String :=
  let cs := Text.trimChars answer.toList
  match introductions.findSome? (·.name? cs) with
  | some name => String.ofList name
  | none =>
    if maxNameWords < (Text.words cs).length ∧ maxNameChars < cs.length then
      String.ofList (cs.take maxNameChars ++ "...".toList)
    else String.ofList cs

end Switchboard
