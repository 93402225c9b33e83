import Switchboard.Decimal.Binary

/-!
# Shortest decimals

The fewest decimal digits that are read back as a given floating-point number, and of those the
digits nearest to it. For a growing number of digits the two neighbours of the number on the grid
of that precision are tested against the interval of reals that round to the number.
-/

namespace Switchboard.Decimal

/-- A decimal `digits * 10^exponent`. -/
structure Digits where
  digits : Nat
  exponent : Int
  deriving DecidableEq, Repr

/-- Whether a decimal lies among the reals that round to `m * 2^q`: between the two halfway points,
which count exactly when `m` is even. -/
def readsBack (m : Nat) (q : Int) (narrowBelow : Bool) (d : Digits) : Bool :=
  let low :=
    compareScaled d.digits d.exponent (if narrowBelow then 4 * m - 1 else 4 * m - 2) (q - 2)
  let high := compareScaled d.digits d.exponent (4 * m + 2) (q - 2)
  -- a halfway point goes to the even neighbour
  let atEnds := m % 2 == 0
  (low == .gt || (atEnds && low == .eq)) && (high == .lt || (atEnds && high == .eq))

/-- The least `k` with `m * 2^q < 10^k`, sought upward from `k` for `fuel` steps. -/
def scaleFrom (m : Nat) (q : Int) : Nat → Int → Int
  | 0, k => k
  | fuel + 1, k => if compareScaled 1 k m q = .gt then k else scaleFrom m q fuel (k + 1)

/-- The number of digits before the point, negative for small numbers. The start lies at most two
below the answer. -/
def scale (m : Nat) (q : Int) : Int :=
  let bits := (m.log2 : Int) + q
  scaleFrom m q 6 ((bits * 30103).fdiv 100000 - 1)

/-- The neighbours of the number on the grid `10^e`: the decimal at or below it and the next one. -/
def neighbours (m : Nat) (q : Int) (e : Int) : Digits × Digits :=
  let floor := (m <<< q.toNat * tenTo (-e).toNat / tenTo e.toNat) >>> (-q).toNat
  (⟨floor, e⟩, ⟨floor + 1, e⟩)

/-- The nearer of two neighbouring decimals that both read back. -/
def nearer (m : Nat) (q : Int) (tie : Tie) (lower upper : Digits) : Digits :=
  match compareScaled (lower.digits + upper.digits) lower.exponent (2 * m) q with
  | .gt => lower
  | .lt => upper
  | .eq => if tie = .upward ∨ lower.digits % 2 = 1 then upper else lower

/-- The decimal of the grid that reads back, if there is one. -/
def onGrid? (m : Nat) (q : Int) (narrowBelow : Bool) (tie : Tie) (e : Int) : Option Digits :=
  let (lower, upper) := neighbours m q e
  match readsBack m q narrowBelow lower, readsBack m q narrowBelow upper with
  | true, true => some (nearer m q tie lower upper)
  | true, false => some lower
  | false, true => some upper
  | false, false => none

/-- The decimal without the zeros at the end of its digits. -/
def stripZeros : Nat → Digits → Digits
  | 0, d => d
  | fuel + 1, d =>
    if d.digits % 10 = 0 ∧ d.digits ≠ 0 then stripZeros fuel ⟨d.digits / 10, d.exponent + 1⟩ else d

/-- The decimal that is `m * 2^q`. -/
def exactDigits (m : Nat) (q : Int) : Digits :=
  ⟨(m <<< q.toNat * tenTo (-q).toNat) >>> (-q).toNat, min q 0⟩

/-- The shortest decimal that is read back as `m * 2^q`; the exact value if seventeen digits do not
suffice. -/
def shortest (m : Nat) (q : Int) (narrowBelow : Bool) (tie : Tie) : Digits :=
  if m = 0 then ⟨0, 0⟩ else
  let k := scale m q
  let found := (List.range 17).findSome? fun n => onGrid? m q narrowBelow tie (k - (n + 1 : Nat))
  stripZeros 400 (found.getD (exactDigits m q))

end Switchboard.Decimal
