import Mathlib.Data.List.TakeWhile
import Switchboard.Proofs.Decimal.Digits
import Switchboard.Time.Timestamp

/-!
# Instants read back

An instant that has a written form is read back from it, with its offset (`read?_of_write?`): each
part of the form is read up to where the next one begins.
-/

namespace Switchboard.Time

open Decimal

-- ---------------------------------------------------------------------------
-- Numbers of a fixed width
-- ---------------------------------------------------------------------------

theorem padded_digits (width n : Nat) : ∀ c ∈ padded width n, c.isDigit = true := by
  intro c hc
  rcases List.mem_append.1 hc with hc | hc
  · rw [List.eq_of_mem_replicate hc]; rfl
  · exact isDigit_toDigits hc

@[simp] theorem natOfDigits_padded (width n : Nat) : natOfDigits 0 (padded width n) = n := by
  simp [padded, natOfDigits_append]

theorem length_padded {width n : Nat} (hwidth : 0 < width) (h : n < 10 ^ width) :
    (padded width n).length = width := by
  have := (Nat.length_toDigits_le_iff (by decide) hwidth).2 h
  simp only [padded, List.length_append, List.length_replicate]
  omega

theorem readPadded?_padded {width n : Nat} (hwidth : 0 < width) (h : n < 10 ^ width)
    (rest : List Char) : readPadded? width (padded width n ++ rest) = some (n, rest) := by
  have hlength := length_padded hwidth h
  have hdigits : (padded width n).all Char.isDigit = true :=
    List.all_eq_true.2 (padded_digits width n)
  unfold readPadded?
  simp [hlength, hdigits]

theorem skip?_cons (mark : Char) (cs : List Char) : skip? mark (mark :: cs) = some cs := by
  simp [skip?]

-- ---------------------------------------------------------------------------
-- Date and time of day
-- ---------------------------------------------------------------------------

theorem Date.ofDayNumber_bounds (n : Int) :
    1 ≤ (Date.ofDayNumber n).month ∧ (Date.ofDayNumber n).month ≤ 12 ∧
      1 ≤ (Date.ofDayNumber n).day ∧ (Date.ofDayNumber n).day ≤ 31 := by
  have hlow : 0 ≤ (n - marchOrigin) % cycleDays := by simp only [cycleDays]; omega
  have hhigh : (n - marchOrigin) % cycleDays < cycleDays := by simp only [cycleDays]; omega
  have hbounds := yearAndDay_bounds hlow hhigh
  simp only [Date.ofDayNumber]
  generalize yearAndDay ((n - marchOrigin) % cycleDays) = parts at *
  obtain ⟨year, dayOfYear⟩ := parts
  simp only [daysBeforeMonth] at *
  split <;> simp only <;> omega

theorem readDate?_written {d : Date} (hyear : 0 ≤ d.year ∧ d.year ≤ 9999)
    (hmonth : 1 ≤ d.month ∧ d.month ≤ 12) (hday : 1 ≤ d.day ∧ d.day ≤ 31)
    (hcalendar : d.inCalendar = true) (rest : List Char) :
    readDate? (padded 4 d.year.toNat ++
      '-' :: (padded 2 d.month.toNat ++ '-' :: (padded 2 d.day.toNat ++ rest))) =
        some (d, rest) := by
  have hdate : (⟨d.year.toNat, d.month.toNat, d.day.toNat⟩ : Date) = d := by
    cases d
    simp only [Date.mk.injEq]
    simp only at hyear hmonth hday
    omega
  unfold readDate?
  rw [readPadded?_padded (by decide) (by omega)]
  simp only [Option.bind_eq_bind, Option.bind_some, skip?_cons]
  rw [readPadded?_padded (by decide) (by omega)]
  simp only [Option.bind_some, skip?_cons]
  rw [readPadded?_padded (by decide) (by omega)]
  simp only [Option.bind_some, hdate, hcalendar, if_true]

theorem readClock?_written {second : Nat} (h : second < 86400) (rest : List Char) :
    readClock? (padded 2 (second / 3600) ++ ':' :: (padded 2 (second / 60 % 60) ++
      ':' :: (padded 2 (second % 60) ++ rest))) = some ((second, false), rest) := by
  have hleap : (second % 60 == 60) = false := by
    simp only [beq_eq_false_iff_ne]
    omega
  unfold readClock?
  rw [readPadded?_padded (by decide) (by omega)]
  simp only [Option.bind_eq_bind, Option.bind_some, skip?_cons]
  rw [readPadded?_padded (by decide) (by omega)]
  simp only [Option.bind_some, skip?_cons]
  rw [readPadded?_padded (by decide) (by omega)]
  simp only [Option.bind_some, hleap, Bool.false_eq_true, if_false]
  rw [if_pos (by omega)]
  simp only [Option.some.injEq, Prod.mk.injEq, and_true]
  omega

-- ---------------------------------------------------------------------------
-- Fraction and offset
-- ---------------------------------------------------------------------------

/-- A list without the zeros at its end, and those zeros. -/
theorem eq_append_zeros (cs : List Char) :
    ∃ k, cs = (cs.reverse.dropWhile (· = '0')).reverse ++ List.replicate k '0' := by
  have hsplit := List.takeWhile_append_dropWhile (p := (· = '0')) (l := cs.reverse)
  have hzeros : cs.reverse.takeWhile (· = '0') =
      List.replicate (cs.reverse.takeWhile (· = '0')).length '0' := by
    refine List.eq_replicate_of_mem fun c hc => ?_
    simpa using List.mem_takeWhile_imp hc
  refine ⟨(cs.reverse.takeWhile (· = '0')).length, ?_⟩
  rw [← List.reverse_replicate, ← hzeros, ← List.reverse_append, hsplit, List.reverse_reverse]

theorem readNanos?_written {nanos : Nat} (h : nanos < 1000000000) {rest : List Char}
    (hends : EndsNumber rest) (hpoint : rest.head? ≠ some '.') :
    readNanos? (fractionText nanos ++ rest) = some (nanos, rest) := by
  obtain ⟨k, hk⟩ := eq_append_zeros (padded 9 nanos)
  have hlength : (padded 9 nanos).length = 9 := length_padded (by decide) h
  have hdigits := padded_digits 9 nanos
  have hvalue := natOfDigits_padded 9 nanos
  unfold fractionText
  generalize ((padded 9 nanos).reverse.dropWhile (· = '0')).reverse = digits at hk ⊢
  rw [hk] at hlength hdigits hvalue
  cases digits with
  | nil =>
    have hzero : nanos = 0 := by simpa using hvalue.symm
    cases rest with
    | nil => simp [readNanos?, hzero]
    | cons c cs =>
      have hc : c ≠ '.' := by simpa using hpoint
      simp [readNanos?, hzero, hc]
  | cons d ds =>
    have hkept : 9 - (d :: ds).length = k := by
      simp only [List.length_append, List.length_replicate] at hlength
      omega
    obtain ⟨htake, hdrop⟩ := takeWhile_digits
      (fun c hc => hdigits c (List.mem_append_left _ hc)) hends
    have hall : (d :: ds).take 9 = d :: ds := List.take_of_length_le (by
      simp only [List.length_append, List.length_replicate] at hlength
      omega)
    simp only [readNanos?, List.cons_append] at htake hdrop ⊢
    rw [htake, hdrop, hall, hkept, hvalue]
    rfl

theorem readOffset?_written {minutes : Int} (h : minutes.natAbs < 1440) :
    readOffset? (offsetText minutes) = some minutes := by
  unfold offsetText
  split
  next hzero => rw [hzero]; rfl
  next hne =>
    have hread : ∀ sign, (sign = '+' ∧ 0 < minutes ∨ sign = '-' ∧ minutes < 0) →
        readOffset? (sign :: padded 2 (minutes.natAbs / 60) ++ ':' ::
          padded 2 (minutes.natAbs % 60)) = some minutes := by
      intro sign hsign
      unfold readOffset?
      split
      next hz => rcases hsign with ⟨rfl, -⟩ | ⟨rfl, -⟩ <;> simp at hz
      next hz => rcases hsign with ⟨rfl, -⟩ | ⟨rfl, -⟩ <;> simp at hz
      next mark cs _ _ hcs =>
        simp only [List.cons_append, List.cons.injEq] at hcs
        obtain ⟨rfl, rfl⟩ := hcs
        rw [readPadded?_padded (by decide) (by omega)]
        simp only [Option.bind_eq_bind, Option.bind_some, skip?_cons]
        rw [← List.append_nil (padded 2 (minutes.natAbs % 60)),
          readPadded?_padded (by decide) (by omega)]
        simp only [Option.bind_some, List.isEmpty_nil]
        rw [if_neg (by simp; omega), Nat.div_add_mod']
        rcases hsign with ⟨rfl, hpos⟩ | ⟨rfl, hneg⟩
        · rw [if_pos rfl]
          exact congrArg some (Int.natAbs_of_nonneg (Int.le_of_lt hpos))
        · rw [if_neg (by decide), if_pos rfl, Int.ofNat_natAbs_of_nonpos (Int.le_of_lt hneg),
            Int.neg_neg]
      next hz => simp at hz
    split
    next hneg => exact hread '-' (.inr ⟨rfl, hneg⟩)
    next hpos => exact hread '+' (.inl ⟨rfl, by omega⟩)

theorem offsetText_head (minutes : Int) :
    EndsNumber (offsetText minutes) ∧ (offsetText minutes).head? ≠ some '.' := by
  unfold offsetText EndsNumber
  split
  · simp
  · split <;> simp

-- ---------------------------------------------------------------------------
-- The whole form
-- ---------------------------------------------------------------------------

/-- An instant in a year of four digits, as its clock shows it. -/
def Instant.HasForm (t : Instant) : Prop := 0 ≤ t.localDate.year ∧ t.localDate.year ≤ 9999

instance (t : Instant) : Decidable t.HasForm := inferInstanceAs (Decidable (_ ∧ _))

theorem Instant.hasForm_iff {t : Instant} : t.HasForm ↔ ∃ s, t.write? = some s := by
  unfold write? HasForm
  dsimp only
  split <;> simp_all

/-- What is written is read back, with its offset. -/
theorem Instant.read?_of_write? {t : Instant} {s : String} (hoffset : t.offset.natAbs < 1440)
    (h : t.write? = some s) : Instant.read? s = some t := by
  unfold write? at h
  dsimp only at h
  split at h
  next hyear =>
    obtain ⟨hmonth, hmonth', hday, hday'⟩ := Date.ofDayNumber_bounds (t.localSeconds / daySeconds)
    have hcalendar := Date.inCalendar_ofDayNumber (t.localSeconds / daySeconds)
    have hdays := Date.dayNumber_ofDayNumber (t.localSeconds / daySeconds)
    have hsecond : 0 ≤ t.localSeconds % daySeconds ∧ t.localSeconds % daySeconds < 86400 := by
      simp only [daySeconds]; omega
    have hnanos : 0 ≤ t.nanos % secondNanos ∧ t.nanos % secondNanos < 1000000000 := by
      simp only [secondNanos]; omega
    obtain ⟨hends, hpoint⟩ := offsetText_head t.offset
    obtain rfl := Option.some.inj h
    unfold read?
    simp only [String.toList_ofList, List.append_assoc, List.cons_append]
    rw [readDate?_written hyear ⟨hmonth, hmonth'⟩ ⟨hday, hday'⟩ hcalendar]
    simp only [Option.bind_eq_bind, Option.bind_some, skipSeparator?]
    rw [if_pos (by decide)]
    simp only [Option.bind_some]
    rw [readClock?_written (by omega)]
    simp only [Option.bind_some]
    rw [readNanos?_written (by omega) hends hpoint]
    simp only [Option.bind_some, readOffset?_written hoffset, localDate, hdays,
      Bool.false_and, Bool.false_eq_true, if_false, Option.some.injEq]
    cases t
    simp only [Instant.mk.injEq, and_true, localSeconds, secondNanos, daySeconds] at *
    omega
  next => cases h

-- ---------------------------------------------------------------------------
-- What is read has a form
-- ---------------------------------------------------------------------------

theorem readPadded?_lt {width n : Nat} {cs rest : List Char}
    (h : readPadded? width cs = some (n, rest)) : n < 10 ^ width := by
  unfold readPadded? at h
  dsimp only at h
  split at h
  next hdigits =>
    obtain ⟨hlength, hall⟩ := hdigits
    obtain ⟨rfl, -⟩ := Prod.mk.inj (Option.some.inj h)
    have hlt : natOfDigits 0 (cs.take width) < 10 ^ (cs.take width).length :=
      natOfDigits_lt (List.all_eq_true.1 hall)
    rwa [hlength] at hlt
  next => cases h

theorem readDate?_some {cs rest : List Char} {d : Date} (h : readDate? cs = some (d, rest)) :
    0 ≤ d.year ∧ d.year ≤ 9999 ∧ d.inCalendar = true := by
  unfold readDate? at h
  simp only [Option.bind_eq_bind, Option.bind_eq_some_iff, Prod.exists] at h
  obtain ⟨year, _, hyear, _, -, month, _, -, _, -, day, _, -, h⟩ := h
  have := readPadded?_lt hyear
  split at h
  next hcalendar =>
    obtain ⟨rfl, -⟩ := Prod.mk.inj (Option.some.inj h)
    refine ⟨?_, ?_, hcalendar⟩ <;> simp only <;> omega
  next => cases h

theorem readClock?_lt {cs rest : List Char} {second : Nat} {leap : Bool}
    (h : readClock? cs = some ((second, leap), rest)) : second < 86400 := by
  unfold readClock? at h
  simp only [Option.bind_eq_bind, Option.bind_eq_some_iff, Prod.exists] at h
  obtain ⟨hour, _, -, _, -, minute, _, -, _, -, sec, _, -, h⟩ := h
  split at h
  next hbounds =>
    simp only [Option.some.injEq, Prod.mk.injEq] at h
    obtain ⟨⟨rfl, -⟩, -⟩ := h
    split
    · omega
    next hsixty =>
      have : sec ≠ 60 := by simpa using hsixty
      omega
  next => cases h

theorem readNanos?_lt {cs rest : List Char} {nanos : Nat} (h : readNanos? cs = some (nanos, rest)) :
    nanos < 1000000000 := by
  unfold readNanos? at h
  split at h
  next r =>
    dsimp only at h
    split at h
    · cases h
    next =>
      obtain ⟨rfl, -⟩ := Prod.mk.inj (Option.some.inj h)
      have hdigits : ∀ c ∈ (r.takeWhile Char.isDigit).take 9, c.isDigit = true := fun c hc =>
        List.mem_takeWhile_imp (List.mem_of_mem_take hc)
      have hlength : ((r.takeWhile Char.isDigit).take 9).length ≤ 9 := List.length_take_le _ _
      generalize (r.takeWhile Char.isDigit).take 9 = kept at hdigits hlength
      have hfilled : ∀ c ∈ kept ++ List.replicate (9 - kept.length) '0', c.isDigit = true := by
        intro c hc
        rcases List.mem_append.1 hc with hc | hc
        · exact hdigits c hc
        · rw [List.eq_of_mem_replicate hc]; rfl
      have hlt := natOfDigits_lt hfilled
      have hnine : (kept ++ List.replicate (9 - kept.length) '0').length = 9 := by
        simp only [List.length_append, List.length_replicate]
        omega
      rwa [hnine] at hlt
  next =>
    obtain ⟨rfl, -⟩ := Prod.mk.inj (Option.some.inj h)
    decide

theorem readOffset?_lt {cs : List Char} {minutes : Int} (h : readOffset? cs = some minutes) :
    minutes.natAbs < 1440 := by
  unfold readOffset? at h
  split at h
  · cases h; decide
  · cases h; decide
  next sign cs _ _ =>
    simp only [Option.bind_eq_bind, Option.bind_eq_some_iff, Prod.exists] at h
    obtain ⟨hours, _, -, _, -, minute, rest, -, h⟩ := h
    split at h
    · cases h
    next hbounds =>
      simp only [Bool.or_eq_true, decide_eq_true_eq] at hbounds
      split at h
      · cases h; omega
      · split at h
        · cases h; omega
        · cases h
  · cases h

/-- The offset of the clock is less than a day. -/
def Instant.Near (t : Instant) : Prop := t.offset.natAbs < 1440

/-- An instant that is read from a text can be written. -/
theorem Instant.hasForm_of_read? {s : String} {t : Instant} (h : Instant.read? s = some t) :
    t.HasForm ∧ t.Near := by
  unfold read? at h
  simp only [Option.bind_eq_bind, Option.bind_eq_some_iff, Prod.exists] at h
  obtain ⟨date, _, hdate, _, -, second, leap, _, hclock, nanos, _, hnanos, offset, hoffset, h⟩ := h
  obtain ⟨hlow, hhigh, hcalendar⟩ := readDate?_some hdate
  have hsecond := readClock?_lt hclock
  have hnanos := readNanos?_lt hnanos
  generalize hf : (if leap = true then secondNanos - 1 else (nanos : Int)) = fraction at h
  have hfraction : 0 ≤ fraction ∧ fraction < 1000000000 := by
    rw [← hf]
    simp only [secondNanos]
    split <;> omega
  split at h
  · cases h
  next =>
    obtain rfl := Option.some.inj h
    refine ⟨?_, readOffset?_lt hoffset⟩
    have hday : (Instant.localSeconds ⟨(date.dayNumber * daySeconds + second - offset * 60) *
        secondNanos + fraction, offset⟩) / daySeconds = date.dayNumber := by
      simp only [localSeconds, daySeconds, secondNanos]
      omega
    have hback : Date.ofDayNumber date.dayNumber = date := by
      simpa [Date.inCalendar] using hcalendar
    rw [HasForm, localDate, hday, hback]
    exact ⟨hlow, hhigh⟩

-- ---------------------------------------------------------------------------
-- Times given in seconds
-- ---------------------------------------------------------------------------

/-- The days from the years -9999 to 9999. -/
theorem Date.year_bounds {n : Int} (hlow : -4371587 ≤ n) (hhigh : n ≤ 2932896) :
    -9999 ≤ (Date.ofDayNumber n).year ∧ (Date.ofDayNumber n).year ≤ 9999 := by
  obtain ⟨hmonth, hmonth', hday, hday'⟩ := Date.ofDayNumber_bounds n
  have hback := Date.dayNumber_ofDayNumber n
  generalize Date.ofDayNumber n = d at *
  obtain ⟨year, month, day⟩ := d
  simp only [Date.dayNumber, cycleDays, daysBeforeYear, daysBeforeMonth, marchOrigin] at *
  split at hback <;> omega

/-- A time that a payload can tell: it can be written, or it lies before the year zero. -/
def Instant.Told (t : Instant) : Prop :=
  t.Near ∧ (t.HasForm ∨ t.offset = 0 ∧ -9999 ≤ t.localDate.year ∧ t.localDate.year < 0)

theorem Instant.told_of_nanos {nanos : Int} (h : unixSecondsInRange (nanos / secondNanos) = true) :
    Instant.Told ⟨nanos, 0⟩ := by
  simp only [unixSecondsInRange, decide_eq_true_eq] at h
  have hbounds := Date.year_bounds (n := nanos / secondNanos / daySeconds)
    (by simp only [daySeconds]; omega) (by simp only [daySeconds]; omega)
  have hyear : (Instant.localDate ⟨nanos, 0⟩) =
      Date.ofDayNumber (nanos / secondNanos / daySeconds) := by
    simp [localDate, localSeconds]
  refine ⟨by simp [Near], ?_⟩
  simp only [HasForm, hyear, true_and]
  omega

theorem Instant.told_of_unixSeconds {n : Int} {t : Instant} (h : ofUnixSeconds? n = some t) :
    t.Told := by
  unfold ofUnixSeconds? at h
  split at h
  next hrange =>
    obtain rfl := Option.some.inj h
    refine told_of_nanos ?_
    rwa [show n * secondNanos / secondNanos = n by simp only [secondNanos]; omega]
  next => cases h

theorem Instant.told_of_unixMillis {n : Int} {t : Instant} (h : ofUnixMillis? n = some t) :
    t.Told := by
  unfold ofUnixMillis? at h
  split at h
  next hrange =>
    obtain rfl := Option.some.inj h
    refine told_of_nanos ?_
    rwa [show n * 1000000 / secondNanos = n / 1000 by simp only [secondNanos]; omega]
  next => cases h

end Switchboard.Time
