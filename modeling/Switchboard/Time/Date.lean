/-!
# Calendar dates

Dates of the Gregorian calendar, extended to all years, and their day numbers. Years are counted
from March, so that the leap day is the last day of its year, and in cycles of four hundred years,
which all have the same number of days.
-/

namespace Switchboard.Time

structure Date where
  year : Int
  month : Int
  day : Int
  deriving DecidableEq, Repr

/-- The day number of the first of March of year zero, counted from the first of January 1970. -/
def marchOrigin : Int := -719468

/-- Days in a cycle of four hundred years. -/
def cycleDays : Int := 146097

/-- The days from the first of March to the first of a month, March being month zero. -/
def daysBeforeMonth (month : Int) : Int := (153 * month + 2) / 5

/-- The days of the first `years` years of a cycle. -/
def daysBeforeYear (years : Int) : Int := 365 * years + years / 4 - years / 100

/-- The number of days from the first of January 1970. -/
def Date.dayNumber (d : Date) : Int :=
  let year := if d.month ≤ 2 then d.year - 1 else d.year
  year / 400 * cycleDays + daysBeforeYear (year % 400) + daysBeforeMonth ((d.month + 9) % 12)
    + (d.day - 1) + marchOrigin

/-- The year of a cycle that holds a day of the cycle, and the day within that year. Centuries,
spans of four years and years are taken off in turn; the last century of a cycle and the last year
of a span may be a day longer. -/
def yearAndDay (dayOfCycle : Int) : Int × Int :=
  let century := min (dayOfCycle / 36524) 3
  let dayOfCentury := dayOfCycle - 36524 * century
  let span := dayOfCentury / 1461
  let dayOfSpan := dayOfCentury - 1461 * span
  let year := min (dayOfSpan / 365) 3
  (100 * century + 4 * span + year, dayOfSpan - 365 * year)

/-- The date of a day number. -/
def Date.ofDayNumber (n : Int) : Date :=
  let cycle := (n - marchOrigin) / cycleDays
  let (year, dayOfYear) := yearAndDay ((n - marchOrigin) % cycleDays)
  let month := (5 * dayOfYear + 2) / 153
  let day := dayOfYear - daysBeforeMonth month + 1
  if month < 10 then ⟨cycle * 400 + year, month + 3, day⟩
  else ⟨cycle * 400 + year + 1, month - 9, day⟩

/-- A date is in the calendar when its day number leads back to it. -/
def Date.inCalendar (d : Date) : Bool := Date.ofDayNumber d.dayNumber == d

theorem daysBeforeYear_parts {century span year : Int} (hs : 0 ≤ span) (hs' : span ≤ 24)
    (hy : 0 ≤ year) (hy' : year ≤ 3) :
    daysBeforeYear (100 * century + 4 * span + year)
      = 36524 * century + 1461 * span + 365 * year := by
  unfold daysBeforeYear
  have hq : (100 * century + 4 * span + year) / 4 = 25 * century + span := by omega
  have hc : (100 * century + 4 * span + year) / 100 = century := by omega
  omega

theorem yearAndDay_bounds {n : Int} (h : 0 ≤ n) (h' : n < cycleDays) :
    0 ≤ (yearAndDay n).1 ∧ (yearAndDay n).1 ≤ 399
      ∧ 0 ≤ (yearAndDay n).2 ∧ (yearAndDay n).2 ≤ 365 := by
  simp only [cycleDays] at h'
  simp only [yearAndDay]; omega

theorem daysBeforeYear_yearAndDay {n : Int} (h : 0 ≤ n) (h' : n < cycleDays) :
    daysBeforeYear (yearAndDay n).1 + (yearAndDay n).2 = n := by
  simp only [cycleDays] at h'
  simp only [yearAndDay]
  rw [daysBeforeYear_parts (by omega) (by omega) (by omega) (by omega)]
  omega

theorem Date.dayNumber_ofDayNumber (n : Int) : (Date.ofDayNumber n).dayNumber = n := by
  have hlow : 0 ≤ (n - marchOrigin) % cycleDays := by simp only [cycleDays]; omega
  have hhigh : (n - marchOrigin) % cycleDays < cycleDays := by simp only [cycleDays]; omega
  have hsum : (n - marchOrigin) / cycleDays * cycleDays + (n - marchOrigin) % cycleDays
      = n - marchOrigin := by simp only [cycleDays]; omega
  have hbounds := yearAndDay_bounds hlow hhigh
  have hdays := daysBeforeYear_yearAndDay hlow hhigh
  simp only [Date.ofDayNumber]
  generalize yearAndDay ((n - marchOrigin) % cycleDays) = split at *
  obtain ⟨year, dayOfYear⟩ := split
  generalize (n - marchOrigin) % cycleDays = rest at *
  generalize (n - marchOrigin) / cycleDays = cycle at *
  simp only at *
  -- months are counted from March, so January and February are months ten and eleven
  have hmonth : 0 ≤ (5 * dayOfYear + 2) / 153 ∧ (5 * dayOfYear + 2) / 153 ≤ 11 := by omega
  generalize (5 * dayOfYear + 2) / 153 = month at *
  split <;> simp only [Date.dayNumber]
  · have hm : ¬ month + 3 ≤ 2 := by omega
    have e1 : (cycle * 400 + year) / 400 = cycle := by omega
    have e2 : (cycle * 400 + year) % 400 = year := by omega
    have e3 : (month + 3 + 9) % 12 = month := by omega
    simp only [hm, if_false, e1, e2, e3]; omega
  · have hm : month - 9 ≤ 2 := by omega
    have e1 : (cycle * 400 + year + 1 - 1) / 400 = cycle := by omega
    have e2 : (cycle * 400 + year + 1 - 1) % 400 = year := by omega
    have e3 : (month - 9 + 9) % 12 = month := by omega
    simp only [hm, if_true, e1, e2, e3]; omega

/-- Every day number has a date of the calendar. -/
theorem Date.inCalendar_ofDayNumber (n : Int) : (Date.ofDayNumber n).inCalendar = true := by
  simp [Date.inCalendar, Date.dayNumber_ofDayNumber]

example : Date.dayNumber ⟨1970, 1, 1⟩ = 0 := by decide
example : Date.ofDayNumber 11016 = ⟨2000, 2, 29⟩ := by decide
example : Date.inCalendar ⟨1900, 2, 29⟩ = false := by decide

end Switchboard.Time
