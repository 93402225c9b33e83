import Switchboard.Decimal.Binary

/-!
# Numbers read from text

Decimal integers within bounds and decimal fractions with an optional exponent. Neither form allows
blanks or separators between the digits.
-/

namespace Switchboard

/-- The integers of sixty-four bits with a sign. -/
def inInt64 (i : Int) : Bool := decide (-0x8000000000000000 ≤ i ∧ i < 0x8000000000000000)

namespace Decimal

def digitValue (c : Char) : Nat := c.toNat - '0'.toNat

/-- The value of decimal digits, continuing from a value already read. -/
def natOfDigits (start : Nat) (ds : List Char) : Nat :=
  ds.foldl (fun n c => n * 10 + digitValue c) start

/-- Digits only, and at least one. -/
def readDigits? (cs : List Char) : Option Nat :=
  if cs.isEmpty || !cs.all Char.isDigit then none else some (natOfDigits 0 cs)

/-- An unsigned number below `limit`, with an optional plus sign. -/
def readNat? (limit : Nat) (s : String) : Option Nat :=
  let digits := match s.toList with
    | '+' :: cs => cs
    | cs => cs
  (readDigits? digits).filter (· < limit)

/-- A number of sixty-four bits with an optional sign. -/
def readInt64? (s : String) : Option Int :=
  let value := match s.toList with
    | '+' :: cs => (readDigits? cs).map Int.ofNat
    | '-' :: cs => (readDigits? cs).map fun n => -(n : Int)
    | cs => (readDigits? cs).map Int.ofNat
  value.filter inInt64

/-- The floating-point number nearest to `m * 10^e`; beyond the finite range it is infinite. -/
def nearestFloat (m : Nat) (e : Int) : Float :=
  -- the decimal exponent of the number, give or take one
  let size := (m.log2 : Int) * 30103 / 100000 + e
  if m = 0 ∨ size < -400 then 0.0
  else if 400 < size then 1.0 / 0.0
  else nearestQuotient (m * tenTo e.toNat) (tenTo (-e).toNat)

def powerOfTen (e : Nat) : Float := nearestFloat 1 e

/-- The exponent after its mark: digits with an optional sign. -/
def readExponent? : List Char → Option Int
  | '+' :: cs => (readDigits? cs).map Int.ofNat
  | '-' :: cs => (readDigits? cs).map fun n => -(n : Int)
  | cs => (readDigits? cs).map Int.ofNat

/-- An unsigned fraction: digits before and after the point, at least one of them, then perhaps an
exponent. -/
def readFraction? (cs : List Char) : Option Float :=
  let whole := cs.takeWhile Char.isDigit
  let afterWhole := cs.dropWhile Char.isDigit
  let (places, rest) := match afterWhole with
    | '.' :: r => (r.takeWhile Char.isDigit, r.dropWhile Char.isDigit)
    | r => ([], r)
  if whole.isEmpty && places.isEmpty then none else
  let m := natOfDigits (natOfDigits 0 whole) places
  let scaled := fun e : Int => nearestFloat m (e - (places.length : Int))
  match rest with
  | [] => some (scaled 0)
  | c :: r => if c = 'e' ∨ c = 'E' then (readExponent? r).map scaled else none

/-- An unsigned number: a fraction or the name of a value that is not finite, in any case. -/
def readMagnitude? (cs : List Char) : Option Float :=
  match String.ofList (cs.map Char.toLower) with
  | "inf" | "infinity" => some (1.0 / 0.0)
  | "nan" => some (0.0 / 0.0)
  | _ => readFraction? cs

/-- A decimal fraction with an optional sign. -/
def readFloat? (s : String) : Option Float :=
  match s.toList with
  | '+' :: cs => readMagnitude? cs
  | '-' :: cs => (readMagnitude? cs).map fun x => -x
  | cs => readMagnitude? cs

end Decimal

end Switchboard
