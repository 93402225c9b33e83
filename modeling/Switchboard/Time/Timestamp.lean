import Switchboard.Time.Instant
import Switchboard.Decimal.Reading

/-!
# Written instants

The internet form of an instant: date, time of day with an optional fraction of a second, and the
offset of the clock, as in 2024-05-01T12:30:00.25-06:00. It exists for the years 0 to 9999.
-/

namespace Switchboard.Time

/-- A number in at least `width` digits. -/
def padded (width n : Nat) : List Char :=
  let ds := Nat.toDigits 10 n
  List.replicate (width - ds.length) '0' ++ ds

/-- The point and the digits of a fraction of a second, without zeros at the end. -/
def fractionText (nanos : Nat) : List Char :=
  match ((padded 9 nanos).reverse.dropWhile (· = '0')).reverse with
  | [] => []
  | digits => '.' :: digits

def offsetText (minutes : Int) : List Char :=
  if minutes = 0 then ['Z']
  else (if minutes < 0 then '-' else '+') :: padded 2 (minutes.natAbs / 60)
    ++ ':' :: padded 2 (minutes.natAbs % 60)

/-- The internet form of an instant, for the years that have four digits. -/
def Instant.write? (t : Instant) : Option String :=
  let date := t.localDate
  let second := (t.localSeconds % daySeconds).toNat
  if 0 ≤ date.year ∧ date.year ≤ 9999 then
    some (String.ofList (
      padded 4 date.year.toNat ++ '-' :: padded 2 date.month.toNat ++ '-' :: padded 2 date.day.toNat
        ++ 'T' :: padded 2 (second / 3600) ++ ':' :: padded 2 (second / 60 % 60)
        ++ ':' :: padded 2 (second % 60)
        ++ fractionText (t.nanos % secondNanos).toNat ++ offsetText t.offset))
  else none

/-- A number of exactly `width` digits, and the text after it. -/
def readPadded? (width : Nat) (cs : List Char) : Option (Nat × List Char) :=
  let digits := cs.take width
  if digits.length = width ∧ digits.all Char.isDigit then
    some (Decimal.natOfDigits 0 digits, cs.drop width)
  else none

/-- The text after a given character. -/
def skip? (mark : Char) : List Char → Option (List Char)
  | c :: cs => if c = mark then some cs else none
  | [] => none

/-- A year, a month and a day. -/
def readDate? (cs : List Char) : Option (Date × List Char) := do
  let (year, cs) ← readPadded? 4 cs
  let (month, cs) ← readPadded? 2 (← skip? '-' cs)
  let (day, cs) ← readPadded? 2 (← skip? '-' cs)
  let date : Date := ⟨year, month, day⟩
  if date.inCalendar then some (date, cs) else none

/-- The second of the day, with sixty allowed for the seconds of the last minute of a month. -/
def readClock? (cs : List Char) : Option ((Nat × Bool) × List Char) := do
  let (hour, cs) ← readPadded? 2 cs
  let (minute, cs) ← readPadded? 2 (← skip? ':' cs)
  let (second, cs) ← readPadded? 2 (← skip? ':' cs)
  if hour ≤ 23 ∧ minute ≤ 59 ∧ second ≤ 60 then
    let leap := second == 60
    some ((hour * 3600 + minute * 60 + (if leap then 59 else second), leap), cs)
  else none

/-- The nanoseconds of an optional fraction; digits beyond the ninth do not count. -/
def readNanos? (cs : List Char) : Option (Nat × List Char) :=
  match cs with
  | '.' :: rest =>
    let digits := rest.takeWhile Char.isDigit
    if digits.isEmpty then none else
    let kept := digits.take 9
    some (Decimal.natOfDigits 0 (kept ++ List.replicate (9 - kept.length) '0'),
      rest.dropWhile Char.isDigit)
  | _ => some (0, cs)

/-- The offset of the clock, in minutes, at the end of the text. -/
def readOffset? (cs : List Char) : Option Int :=
  match cs with
  | ['Z'] | ['z'] => some 0
  | sign :: cs => do
    let (hours, cs) ← readPadded? 2 cs
    let (minutes, cs) ← readPadded? 2 (← skip? ':' cs)
    let size : Int := (hours * 60 + minutes : Nat)
    if !cs.isEmpty || 23 < hours || 59 < minutes then none
    else if sign = '+' then some size
    else if sign = '-' then some (-size)
    else none
  | [] => none

/-- The text after the one ASCII character between date and time. -/
def skipSeparator? : List Char → Option (List Char)
  | c :: cs => if c.toNat < 128 then some cs else none
  | [] => none

/-- The last instant before a leap second must be the end of a month in universal time. -/
def endsMonth (t : Instant) : Bool :=
  let second := t.nanos / secondNanos
  second % daySeconds == daySeconds - 1 && (Date.ofDayNumber (second / daySeconds + 1)).day == 1

/-- An instant from its internet form. A leap second counts as the last nanosecond before it. -/
def Instant.read? (s : String) : Option Instant := do
  let (date, cs) ← readDate? s.toList
  let ((second, leap), cs) ← readClock? (← skipSeparator? cs)
  let (nanos, cs) ← readNanos? cs
  let offset ← readOffset? cs
  -- the fraction of a leap second is read, but does not count
  let nanos : Int := if leap then secondNanos - 1 else nanos
  let t : Instant :=
    ⟨(date.dayNumber * daySeconds + second - offset * 60) * secondNanos + nanos, offset⟩
  if leap && !endsMonth t then none else some t

end Switchboard.Time
