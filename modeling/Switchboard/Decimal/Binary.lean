/-!
# Binary fractions

A finite floating-point number as an exact product `m * 2^q`, the decimals that are read as that
number, and rounding of exact quotients.
-/

namespace Switchboard.Decimal

/-- What the sixty-four bits of a floating-point number stand for, its sign apart. -/
inductive Magnitude where
  | finite (m : Nat) (q : Int) (narrowBelow : Bool)
  | infinite
  | notANumber
  deriving DecidableEq, Repr

/-- The bit before the fifty-two of the fraction, which every number but the smallest ones has. -/
def leadingBit : Nat := 1 <<< 52

/-- The magnitude of a number. `narrowBelow` says that the gap to the number below is half the gap
to the number above, as it is at a power of two. -/
def magnitude (x : Float) : Magnitude :=
  let bits := x.toBits.toNat
  let exponent : Nat := bits >>> 52 % 2048
  let fraction : Nat := bits % leadingBit
  if exponent = 2047 then (if fraction = 0 then .infinite else .notANumber)
  else if exponent = 0 then .finite fraction (-1074) false
  else .finite (leadingBit + fraction) ((exponent : Int) - 1075) (fraction == 0 && 1 < exponent)

def isNegative (x : Float) : Bool := x.toBits.toNat >>> 63 == 1

/-- The floating-point number nearest to an integer. -/
def ofInt (i : Int) : Float :=
  let size := Float.ofScientific i.natAbs false 0
  if i < 0 then -size else size

def tenTo (e : Nat) : Nat := Nat.pow 10 e

/-- The comparison of `a * 10^i` with `n * 2^j`. -/
def compareScaled (a : Nat) (i : Int) (n : Nat) (j : Int) : Ordering :=
  compare ((a * tenTo i.toNat) <<< (-j).toNat) ((n * tenTo (-i).toNat) <<< j.toNat)

/-- Where the exact middle between two candidates goes. -/
inductive Tie where
  | toEven
  | upward
  deriving DecidableEq, Repr

/-- The quotient rounded to the nearest integer. -/
def roundDiv (num den : Nat) (tie : Tie) : Nat :=
  let q := num / den
  match compare (2 * (num % den)) den with
  | .lt => q
  | .gt => q + 1
  | .eq => if tie = .upward ∨ q % 2 = 1 then q + 1 else q

/-- The floating-point number nearest to a quotient, the middle going to the even neighbour; beyond
the finite range it is infinite. -/
def nearestQuotient (num den : Nat) : Float :=
  -- the quotient lies between 2^(spread + 51) and 2^(spread + 53)
  let spread : Int := (num.log2 : Int) - den.log2 - 52
  let isShort := num <<< (-spread).toNat < den <<< spread.toNat * leadingBit
  let q := max (if isShort then spread - 1 else spread) (-1074)
  (roundDiv (num <<< (-q).toNat) (den <<< q.toNat) .toEven).toFloat.scaleB q

/-- The whole number nearest to `m * 2^q * scale`, the middle going to the even neighbour. -/
def roundScaled (m : Nat) (q : Int) (scale : Nat) : Nat :=
  roundDiv ((m * scale) <<< q.toNat) (1 <<< (-q).toNat) .toEven

end Switchboard.Decimal
