import Switchboard.Decimal.Shortest

/-!
# Written numbers

The two ways in which this library writes a floating-point number. Documents write the shortest
digits with a point, and with an exponent outside a middle range of sizes; addresses of places write
them without exponent, and whole numbers without a point.
-/

namespace Switchboard.Decimal

def digitChars (n : Nat) : List Char := Nat.toDigits 10 n

/-- The digits with the point at its place: zeros fill the gap between the digits and the point.
`pointZero` asks for `.0` after a whole number. -/
def positional (pointZero : Bool) (d : Digits) : List Char :=
  let ds := digitChars d.digits
  if 0 ≤ d.exponent then
    ds ++ List.replicate d.exponent.toNat '0' ++ (if pointZero then ['.', '0'] else [])
  else
    let places := (-d.exponent).toNat
    let padded := List.replicate (places + 1 - ds.length) '0' ++ ds
    padded.take (padded.length - places) ++ '.' :: padded.drop (padded.length - places)

/-- One digit, the point and the other digits, and a signed exponent. -/
def scientific (d : Digits) : List Char :=
  let ds := digitChars d.digits
  let e := d.exponent + (ds.length - 1 : Nat)
  ds.take 1 ++ (if 1 < ds.length then '.' :: ds.drop 1 else [])
    ++ ['e', if e < 0 then '-' else '+'] ++ digitChars e.natAbs

/-- The decimal exponent of the first digit. -/
def leadingExponent (d : Digits) : Int := d.exponent + ((digitChars d.digits).length - 1 : Nat)

/-- A number as documents write it; what is not finite has no such form. -/
def documentText? (x : Float) : Option String :=
  match magnitude x with
  | .finite m q narrow =>
    let d := shortest m q narrow .toEven
    let e := leadingExponent d
    let body := if -5 ≤ e ∧ e ≤ 15 then positional true d else scientific d
    some (String.ofList ((if isNegative x then ['-'] else []) ++ body))
  | _ => none

/-- A number as the address of a place writes it: all digits and no exponent. -/
def plainText (x : Float) : String :=
  match magnitude x with
  | .finite m q narrow =>
    String.ofList ((if isNegative x then ['-'] else [])
      ++ positional false (shortest m q narrow .upward))
  | .infinite => if isNegative x then "-inf" else "inf"
  | .notANumber => "NaN"

end Switchboard.Decimal
