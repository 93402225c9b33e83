import Switchboard.Yaml
import Switchboard.Json.Token
import Switchboard.Text.Blank

/-!
# What scalars say

A scalar without quotes is null, a flag or a number if its text spells one. A tag of the core types
makes any scalar one of these, of its bytes or a text, and the text has to spell it.
-/

namespace Switchboard.Yaml

/-- What a scalar says by itself. -/
inductive Meaning where
  | null
  | flag (b : Bool)
  | int (i : Int)
  | float (x : Float)
  | text (s : String)
  | bytes (bs : List Nat)

/-- The document of what a scalar says; bytes are written as numbers. -/
def Meaning.json : Meaning → Json
  | .null => .null
  | .flag b => .bool b
  | .int i => Json.ofInt i
  | .float x => Json.ofFloat x
  | .text s => .str s
  | .bytes bs => .arr (bs.map fun b : Nat => Json.ofInt b)

def coreTag (name : String) : String := "tag:yaml.org,2002:" ++ name

/-- A tag that names a choice and no type: an exclamation mark and the name, which may be missing.
-/
def choiceName? (tag : String) : Option String :=
  match tag.toList with
  | ['!'] => some "!"
  | '!' :: name => some (String.ofList name)
  | _ => none

def isNullWord (s : String) : Bool := ["~", "null", "Null", "NULL"].contains s

/-- The words for the two truth values, in any case. -/
def flagWord? (s : String) : Option Bool :=
  let word := String.ofList (s.toList.map Char.toLower)
  if ["y", "yes", "on", "true"].contains word then some true
  else if ["n", "no", "off", "false"].contains word then some false
  else none

/-- The value of digits to a base. -/
def natOfBase? (base : Nat) (cs : List Char) : Option Nat :=
  if cs.isEmpty then none
  else cs.foldlM (fun n c => do
    let d ← Json.hexValue? c
    if d < base then some (n * base + d) else none) 0

/-- The size of a whole number: decimal digits without leading zeros, or digits to a base given by a
letter after a zero. -/
def magnitude? : List Char → Option Nat
  | '0' :: 'x' :: cs => natOfBase? 16 cs
  | '0' :: 'o' :: cs => natOfBase? 8 cs
  | '0' :: 'b' :: cs => natOfBase? 2 cs
  | '0' :: _ :: _ => none
  | cs => natOfBase? 10 cs

def int? (s : String) : Option Int :=
  match s.toList with
  | '+' :: cs => (magnitude? cs).map Int.ofNat
  | '-' :: cs => (magnitude? cs).map fun n => -(n : Int)
  | cs => (magnitude? cs).map Int.ofNat

/-- Digits with zeros in front are no number. -/
def isPadded (s : String) : Bool :=
  let digits := match s.toList with
    | '+' :: cs | '-' :: cs => cs
    | cs => cs
  1 < digits.length && digits.head? == some '0' && digits.all Char.isDigit

/-- A floating-point number, or one of the words for those that are not finite; what rounds to
infinity is none. -/
def float? (s : String) : Option Float :=
  if [".inf", ".Inf", ".INF", "+.inf", "+.Inf", "+.INF"].contains s then some (1.0 / 0.0)
  else if ["-.inf", "-.Inf", "-.INF"].contains s then some (-1.0 / 0.0)
  else if [".nan", ".NaN", ".NAN"].contains s then some (0.0 / 0.0)
  else (Decimal.readFloat? s).filter Float.isFinite

/-- The whole numbers that can be told apart: of sixty-four bits, with or without sign. -/
def isInRange (i : Int) : Bool := inInt64 i || decide (0 ≤ i ∧ i < UInt64.size)

/-- The whole numbers of a hundred and twenty-eight bits, with or without sign. -/
def isWhole (i : Int) : Bool :=
  let size : Int := UInt64.size * UInt64.size
  decide (-(size / 2) ≤ i ∧ i < size)

/-- What a whole number that is spelt out says; beyond sixty-four bits it is refused, and beyond
twice as many it is no whole number. -/
def whole? (s : String) : Option (Option Meaning) :=
  ((int? s).filter isWhole).map fun i => if isInRange i then some (.int i) else none

/-- What a scalar without quotes and tag says. -/
def plainMeaning? (s : String) : Option Meaning :=
  if s = "" || isNullWord s then some .null
  else if ["true", "True", "TRUE"].contains s then some (.flag true)
  else if ["false", "False", "FALSE"].contains s then some (.flag false)
  else match whole? s with
    | some m => m
    | none =>
      if isPadded s then some (.text s)
      else some (((float? s).map Meaning.float).getD (.text s))

/-- The value of a digit to the base sixty-four. -/
def digit64? (c : Char) : Option Nat :=
  if 'A' ≤ c ∧ c ≤ 'Z' then some (c.toNat - 'A'.toNat)
  else if 'a' ≤ c ∧ c ≤ 'z' then some (c.toNat - 'a'.toNat + 26)
  else if c.isDigit then some (c.toNat - '0'.toNat + 52)
  else if c = '+' then some 62
  else if c = '/' then some 63
  else none

/-- The bytes of digits to the base sixty-four, four digits for three bytes. Equals signs fill the
last four, and the bits that they leave over are zero. -/
def bytes64? : List Char → Option (List Nat)
  | [] => some []
  | [a, b, '=', '='] => do
    let n := (← digit64? a) * 64 + (← digit64? b)
    if n % 16 = 0 then some [n / 16] else none
  | [a, b, c, '='] => do
    let n := ((← digit64? a) * 64 + (← digit64? b)) * 64 + (← digit64? c)
    if n % 4 = 0 then some [n / 1024, n / 4 % 256] else none
  | a :: b :: c :: d :: rest => do
    let n := (((← digit64? a) * 64 + (← digit64? b)) * 64 + (← digit64? c)) * 64 + (← digit64? d)
    return n / 65536 :: n / 256 % 256 :: n % 256 :: (← bytes64? rest)
  | _ => none

namespace Scalar

/-- Nothing is written. -/
def isAbsent (s : Scalar) : Bool := s.text = "" && s.plain

/-- What the scalar says apart from the choice that its tag may name. -/
def untagged? (s : Scalar) : Option Meaning :=
  if s.plain then plainMeaning? s.text else some (.text s.text)

/-- What the scalar says if its tag names no choice. -/
def meaning? (s : Scalar) : Option Meaning :=
  match s.tag with
  | none => s.untagged?
  | some tag =>
    if tag = coreTag "bool" then (flagWord? s.text).map .flag
    else if tag = coreTag "int" then (whole? s.text).join
    else if tag = coreTag "float" then (float? s.text).map .float
    else if tag = coreTag "null" then if isNullWord s.text then some .null else none
    else if tag = coreTag "binary" then
      (bytes64? (s.text.toList.filter fun c => !Text.isBlankChar c)).map .bytes
    else some (.text s.text)

/-- The scalar may be read as a core type: it is written without quotes, and its tag names no other
type. -/
def mayBe (type : String) (s : Scalar) : Bool :=
  s.plain && s.tag.all fun tag => tag = coreTag type || (choiceName? tag).isSome

/-- The scalar stands for nothing where a value may be missing. -/
def isNull (s : Scalar) : Bool :=
  s.plain && match s.tag with
    | none => s.text = "" || isNullWord s.text
    | some tag => if tag = coreTag "null" then isNullWord s.text else s.text = ""

end Scalar

end Switchboard.Yaml
