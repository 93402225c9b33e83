import Switchboard.Json
import Switchboard.Decimal.Reading

/-!
# JSON tokens

The brackets, marks and scalars of a JSON text. A number with a point or an exponent keeps as many
leading digits as fit into sixty-four bits and is then scaled by its power of ten in floating-point
arithmetic, so it may differ from the nearest number in its last bit.
-/

namespace Switchboard.Json

inductive Token where
  | beginArray
  | endArray
  | beginObject
  | endObject
  | colon
  | comma
  | text (s : String)
  | scalar (v : Json)
  /-- A text that is well formed but has half a character in it. -/
  | brokenText
  /-- A number that is well formed but beyond the finite range. -/
  | hugeNumber

def hexValue? (c : Char) : Option Nat :=
  if c.isDigit then some (c.toNat - '0'.toNat)
  else if 'a' ≤ c ∧ c ≤ 'f' then some (c.toNat - 'a'.toNat + 10)
  else if 'A' ≤ c ∧ c ≤ 'F' then some (c.toNat - 'A'.toNat + 10)
  else none

def hex4? (a b c d : Char) : Option Nat := do
  return (((← hexValue? a) * 16 + (← hexValue? b)) * 16 + (← hexValue? c)) * 16 + (← hexValue? d)

/-- The character that a one-letter escape stands for. -/
def escaped? : Char → Option Char
  | '"' => some '"'
  | '\\' => some '\\'
  | '/' => some '/'
  | 'b' => some '\x08'
  | 'f' => some '\x0c'
  | 'n' => some '\n'
  | 'r' => some '\r'
  | 't' => some '\t'
  | _ => none

def isLeadUnit (n : Nat) : Bool := 0xD800 ≤ n && n ≤ 0xDBFF

def isTrailUnit (n : Nat) : Bool := 0xDC00 ≤ n && n ≤ 0xDFFF

/-- The rest of a quoted text and what follows its closing quote. Characters beyond the first plane
are escaped as two units, and neither unit may stand alone. -/
def quoted? : List Char → Option (List Char × List Char)
  | '"' :: rest => some ([], rest)
  | '\\' :: 'u' :: a :: b :: c :: d :: '\\' :: 'u' :: e :: f :: g :: h :: rest => do
    let unit ← hex4? a b c d
    if isLeadUnit unit then
      let trail ← hex4? e f g h
      if isTrailUnit trail then
        let (cs, rest) ← quoted? rest
        return (Char.ofNat (0x10000 + (unit - 0xD800) * 0x400 + (trail - 0xDC00)) :: cs, rest)
      else none
    else if isTrailUnit unit then none
    else
      let (cs, rest) ← quoted? ('\\' :: 'u' :: e :: f :: g :: h :: rest)
      return (Char.ofNat unit :: cs, rest)
  | '\\' :: 'u' :: a :: b :: c :: d :: rest => do
    let unit ← hex4? a b c d
    if isLeadUnit unit || isTrailUnit unit then none
    else
      let (cs, rest) ← quoted? rest
      return (Char.ofNat unit :: cs, rest)
  | '\\' :: mark :: rest => do
    let c ← escaped? mark
    let (cs, rest) ← quoted? rest
    return (c :: cs, rest)
  | c :: rest =>
    if c = '\\' ∨ c.toNat < 0x20 then none
    else do
      let (cs, rest) ← quoted? rest
      return (c :: cs, rest)
  | [] => none

/-- What follows the closing quote of a text, whatever its escapes stand for. -/
def afterQuoted? : List Char → Option (List Char)
  | '"' :: rest => some rest
  | '\\' :: 'u' :: a :: b :: c :: d :: rest =>
    if (hex4? a b c d).isSome then afterQuoted? rest else none
  | '\\' :: mark :: rest => if (escaped? mark).isSome then afterQuoted? rest else none
  | c :: rest => if c = '\\' ∨ c.toNat < 0x20 then none else afterQuoted? rest
  | [] => none

/-- The token of a text after its opening quote. -/
def textToken? (cs : List Char) : Option (Token × List Char) :=
  match quoted? cs with
  | some (text, rest) => some (.text (String.ofList text), rest)
  | none => (afterQuoted? cs).map fun rest => (.brokenText, rest)

/-- The digits that fit into sixty-four bits after those already taken, and the digits left. -/
def takeDigits (taken : Nat) : List Char → Nat × List Char
  | [] => (taken, [])
  | d :: ds =>
    let next := taken * 10 + Decimal.digitValue d
    if next < UInt64.size then takeDigits next ds else (taken, d :: ds)

/-- A whole number scaled by a power of ten, step by step within the range of the powers; a result
beyond the finite range is refused. -/
def scaled? (x : Float) (e : Int) : Nat → Option Float
  | 0 => some x
  | fuel + 1 =>
    if e.natAbs ≤ 308 then
      if 0 ≤ e then
        let y := x * Decimal.powerOfTen e.toNat
        if y.isInf then none else some y
      else some (x / Decimal.powerOfTen e.natAbs)
    else if x == 0.0 then some x
    else if 0 ≤ e then none
    -- smaller powers than the least one are divided by in turn
    else scaled? (x / Decimal.powerOfTen 308) (e + 308) fuel

/-- The limits of an exponent of thirty-two bits. -/
def clampExponent (e : Int) : Int := max (-0x80000000) (min 0x7fffffff e)

/-- A number with a point or an exponent: digits before the point, digits after it, and the
exponent. -/
def fraction? (whole places : List Char) (exponent : Int) : Option Float :=
  let (taken, cut) := takeDigits 0 whole
  let (taken, left) := takeDigits taken places
  -- digits cut off before the point raise the power, digits kept after it lower it
  let kept := places.length - left.length
  if 0x80000000 ≤ exponent.natAbs then
    if taken ≠ 0 ∧ 0 < exponent then none else some 0.0
  else
    scaled? taken.toUInt64.toFloat
      (clampExponent ((cut.length : Int) - (kept : Int) + exponent)) 8

/-- An optional exponent and what follows it. -/
def exponent? : List Char → Option (Option Int × List Char)
  | c :: rest =>
    if c = 'e' ∨ c = 'E' then
      let (negative, rest) := match rest with
        | '+' :: r => (false, r)
        | '-' :: r => (true, r)
        | r => (false, r)
      let digits := rest.takeWhile Char.isDigit
      if digits.isEmpty then none else
      let size : Int := Decimal.natOfDigits 0 digits
      some (some (if negative then -size else size), rest.dropWhile Char.isDigit)
    else some (none, c :: rest)
  | [] => some (none, [])

/-- An optional fraction and what follows it. -/
def places? : List Char → Option (Option (List Char) × List Char)
  | '.' :: rest =>
    let digits := rest.takeWhile Char.isDigit
    if digits.isEmpty then none else some (some digits, rest.dropWhile Char.isDigit)
  | rest => some (none, rest)

/-- A number is an integer when it has neither point nor exponent and fits into sixty-four bits;
minus zero and what does not fit are floating-point numbers. -/
def numberToken? (negative : Bool) (cs : List Char) : Option (Token × List Char) := do
  let whole := cs.takeWhile Char.isDigit
  let rest := cs.dropWhile Char.isDigit
  if whole.isEmpty || (whole.head? == some '0' && 1 < whole.length) then none else
  let (places, rest) ← places? rest
  let (exponent, rest) ← exponent? rest
  let signed := fun x : Float => if negative then -x else x
  let n := Decimal.natOfDigits 0 whole
  if places.isNone && exponent.isNone && n < UInt64.size then
    if !negative then return (.scalar (.num (.int n)), rest)
    -- minus zero keeps its sign, and what lies below the signed range its size
    else if n = 0 ∨ 0x8000000000000000 < n then
      return (.scalar (.num (.float (signed n.toUInt64.toFloat))), rest)
    else return (.scalar (.num (.int (-(n : Int)))), rest)
  else
    match fraction? whole (places.getD []) (exponent.getD 0) with
    | some x => return (.scalar (.num (.float (signed x))), rest)
    | none => return (.hugeNumber, rest)

/-- The first token of a text that does not begin with a blank, and the text after it. -/
def nextToken? : List Char → Option (Token × List Char)
  | '[' :: rest => some (.beginArray, rest)
  | ']' :: rest => some (.endArray, rest)
  | '\x7b' :: rest => some (.beginObject, rest)
  | '\x7d' :: rest => some (.endObject, rest)
  | ':' :: rest => some (.colon, rest)
  | ',' :: rest => some (.comma, rest)
  | '"' :: rest => textToken? rest
  | 'n' :: 'u' :: 'l' :: 'l' :: rest => some (.scalar .null, rest)
  | 't' :: 'r' :: 'u' :: 'e' :: rest => some (.scalar (.bool true), rest)
  | 'f' :: 'a' :: 'l' :: 's' :: 'e' :: rest => some (.scalar (.bool false), rest)
  | '-' :: rest => numberToken? true rest
  | cs => numberToken? false cs

def isSpace (c : Char) : Bool := c = ' ' || c = '\n' || c = '\t' || c = '\r'

/-- The tokens at the start of a text, and whether they are all of it. -/
def tokensWithin : Nat → List Char → List Token × Bool
  | 0, cs => ([], cs.isEmpty)
  | fuel + 1, cs =>
    match cs.dropWhile isSpace with
    | [] => ([], true)
    | cs =>
      match nextToken? cs with
      | none => ([], false)
      | some (token, rest) =>
        let (tokens, whole) := tokensWithin fuel rest
        (token :: tokens, whole)

/-- The tokens of a text up to its first fault, and whether there is none. Every token takes at
least one character. -/
def tokens (cs : List Char) : List Token × Bool := tokensWithin (cs.length + 1) cs

end Switchboard.Json
