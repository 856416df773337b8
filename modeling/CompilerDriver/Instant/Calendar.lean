/-!
# The calendar

Dates of the Gregorian calendar, extended to all years before and after it, and the days they fall on.
Day 0 is the first of January of the year 1, so a day is a whole number and years divide evenly into
eras of 400 years, these into centuries, and so on down.

Main statement: `dayNumber_ofDayNumber`, every day has a date that falls on it.
-/

namespace CompilerDriver

/-- A date as it is written; whether there is such a day, `Date.isValid` says. -/
structure Date where
  year : Int
  month : Nat
  day : Nat
deriving DecidableEq, Repr

namespace Date

/-- Every fourth year is a leap year, except the centuries that 400 does not divide. -/
def isLeapYear (year : Int) : Bool :=
  year % 4 == 0 && (year % 100 != 0 || year % 400 == 0)

/-- The lengths of the months. -/
def monthLengths (leap : Bool) : List Nat :=
  [31, if leap then 29 else 28, 31, 30, 31, 30, 31, 31, 30, 31, 30, 31]

/-- The length of some months together. -/
def totalDays : (lengths : List Nat) → Nat
  | [] => 0
  | length :: rest => length + totalDays rest

/-- Whether the calendar has this date. -/
def isValid (date : Date) : Bool :=
  1 ≤ date.month && 1 ≤ date.day &&
    (match (monthLengths (isLeapYear date.year))[date.month - 1]? with
    | some length => date.day ≤ length
    | none => false)

/-! ## From dates to days -/

/-- The first day of a year. -/
def yearStart (year : Int) : Int :=
  let before := year - 1
  365 * before + before / 4 - before / 100 + before / 400

/-- The day a date falls on. -/
def dayNumber (date : Date) : Int :=
  yearStart date.year +
    totalDays ((monthLengths (isLeapYear date.year)).take (date.month - 1)) + (date.day - 1 : Int)

/-! ## From days to dates -/

/-- Finds the month that a day of the year lies in: `month` counts the months before the listed ones,
and what is left is the day of the month, counted from 0. -/
def findMonth (month : Nat) : (lengths : List Nat) → (day : Nat) → Nat × Nat
  | [], day => (month, day)
  | length :: rest, day =>
    if day < length then (month, day) else findMonth (month + 1) rest (day - length)

/-- The year that a day lies in. An era has 146097 days, a century 36524 and the day that may end it,
four years 1461, and a year 365 and the day that may end it. -/
def yearOf (day : Int) : Int :=
  let inEra := day % 146097
  let century := min 3 (inEra / 36524)
  let inCentury := inEra - 36524 * century
  let inFour := inCentury % 1461
  400 * (day / 146097) + 100 * century + 4 * (inCentury / 1461) + min 3 (inFour / 365) + 1

/-- The date of a day. -/
def ofDayNumber (day : Int) : Date :=
  let year := yearOf day
  let found := findMonth 0 (monthLengths (isLeapYear year)) (day - yearStart year).toNat
  ⟨year, found.1 + 1, found.2 + 1⟩

/-- A day is a number of eras, of centuries, of fours of years, of years, and days beyond; a year has a
366th day only if it ends four years, and a century's last four years have one only if they end an era. -/
theorem yearOf_parts (day : Int) :
    ∃ e c q y r : Int, yearOf day = 400 * e + 100 * c + 4 * q + y + 1 ∧
      day = 146097 * e + 36524 * c + 1461 * q + 365 * y + r ∧
      0 ≤ c ∧ c ≤ 3 ∧ 0 ≤ q ∧ q ≤ 24 ∧ 0 ≤ y ∧ y ≤ 3 ∧ 0 ≤ r ∧
      (r ≤ 364 ∨ (r = 365 ∧ y = 3 ∧ (q ≤ 23 ∨ c = 3))) := by
  let inEra := day % 146097
  let c := min 3 (inEra / 36524)
  let inCentury := inEra - 36524 * c
  let q := inCentury / 1461
  let inFour := inCentury % 1461
  let y := min 3 (inFour / 365)
  have hera : day = 146097 * (day / 146097) + inEra ∧ 0 ≤ inEra ∧ inEra ≤ 146096 := by
    simp only [inEra]; omega
  have hc : 0 ≤ c ∧ c ≤ 3 ∧ 0 ≤ inCentury ∧
      (inCentury ≤ 36523 ∨ (inCentury = 36524 ∧ c = 3)) := by
    simp only [inCentury, c]; omega
  have hq : inCentury = 1461 * q + inFour ∧ 0 ≤ inFour ∧ inFour ≤ 1460 := by
    simp only [q, inFour]; omega
  have hy : 0 ≤ y ∧ y ≤ 3 ∧ 0 ≤ inFour - 365 * y ∧
      (inFour - 365 * y ≤ 364 ∨ (inFour = 1460 ∧ y = 3)) := by
    simp only [y]; omega
  have hin : inEra = 36524 * c + inCentury := by simp only [inCentury]; omega
  refine ⟨day / 146097, c, q, y, inFour - 365 * y, rfl, ?_⟩
  omega

/-- The leap days before a year, counted by its parts. -/
theorem yearStart_parts {e c q y : Int} (hc : 0 ≤ c ∧ c ≤ 3) (hq : 0 ≤ q ∧ q ≤ 24)
    (hy : 0 ≤ y ∧ y ≤ 3) :
    yearStart (400 * e + 100 * c + 4 * q + y + 1) = 146097 * e + 36524 * c + 1461 * q + 365 * y := by
  have h4 : (400 * e + 100 * c + 4 * q + y + 1 - 1) / 4 = 100 * e + 25 * c + q := by omega
  have h100 : (400 * e + 100 * c + 4 * q + y + 1 - 1) / 100 = 4 * e + c := by omega
  have h400 : (400 * e + 100 * c + 4 * q + y + 1 - 1) / 400 = e := by omega
  simp only [yearStart, h4, h100, h400]
  omega

/-- A day lies in its year. -/
theorem yearStart_yearOf_le (day : Int) : yearStart (yearOf day) ≤ day := by
  obtain ⟨e, c, q, y, r, hyear, hday, h⟩ := yearOf_parts day
  rw [hyear, yearStart_parts (by omega) (by omega) (by omega)]
  omega

/-- A day lies before the next year. -/
theorem lt_yearStart_succ (day : Int) :
    day < yearStart (yearOf day) + (if isLeapYear (yearOf day) then 366 else 365) := by
  obtain ⟨e, c, q, y, r, hyear, hday, h⟩ := yearOf_parts day
  rw [hyear, yearStart_parts (by omega) (by omega) (by omega)]
  by_cases hr : r ≤ 364
  · split <;> omega
  · have hleap : isLeapYear (400 * e + 100 * c + 4 * q + y + 1) = true := by
      have h4 : (400 * e + 100 * c + 4 * q + y + 1) % 4 = 0 := by omega
      have h100 : (400 * e + 100 * c + 4 * q + y + 1) % 100 ≠ 0 ∨
          (400 * e + 100 * c + 4 * q + y + 1) % 400 = 0 := by omega
      simp only [isLeapYear, Bool.and_eq_true, Bool.or_eq_true, beq_iff_eq, bne_iff_ne, h4]
      exact ⟨trivial, h100⟩
    rw [if_pos hleap]
    omega

/-- The month that was found begins before the day, and the day is counted from there. -/
theorem findMonth_spec {lengths : List Nat} {day : Nat} (h : day < totalDays lengths) (month : Nat) :
    ∃ i length, (findMonth month lengths day).1 = month + i ∧ lengths[i]? = some length ∧
      (findMonth month lengths day).2 < length ∧
      totalDays (lengths.take i) + (findMonth month lengths day).2 = day := by
  induction lengths generalizing day month with
  | nil => exact absurd h (Nat.not_lt_zero day)
  | cons length rest ih =>
    rw [findMonth]
    split
    next hd => exact ⟨0, length, by simp, by simp, hd, by simp [totalDays]⟩
    next hd =>
      rw [totalDays] at h
      have hrest : day - length < totalDays rest := by omega
      obtain ⟨i, length', h1, h2, h3, h4⟩ := ih hrest (month + 1)
      refine ⟨i + 1, length', by omega, by simpa using h2, h3, ?_⟩
      rw [List.take_succ_cons, totalDays]
      omega

theorem totalDays_monthLengths (leap : Bool) :
    totalDays (monthLengths leap) = if leap then 366 else 365 := by
  cases leap <;> rfl

theorem findMonth_ofDayNumber (day : Int) :
    ∃ i length, (ofDayNumber day).month = i + 1 ∧
      (monthLengths (isLeapYear (yearOf day)))[i]? = some length ∧
      (ofDayNumber day).day ≤ length ∧ 1 ≤ (ofDayNumber day).day ∧
      (totalDays ((monthLengths (isLeapYear (yearOf day))).take i) : Int) +
        ((ofDayNumber day).day - 1 : Int) = day - yearStart (yearOf day) := by
  have h1 := yearStart_yearOf_le day
  have h2 := lt_yearStart_succ day
  have hsum : (day - yearStart (yearOf day)).toNat <
      totalDays (monthLengths (isLeapYear (yearOf day))) := by
    rw [totalDays_monthLengths]
    split at h2
    next h => rw [if_pos h]; omega
    next h => rw [if_neg h]; omega
  obtain ⟨i, length, e1, e2, e3, e4⟩ := findMonth_spec hsum 0
  refine ⟨i, length, by simp [ofDayNumber, e1], e2, by simp only [ofDayNumber]; omega,
    by simp only [ofDayNumber]; omega, ?_⟩
  simp only [ofDayNumber]
  omega

/-- The date of a day is in the calendar. -/
theorem isValid_ofDayNumber (day : Int) : (ofDayNumber day).isValid = true := by
  obtain ⟨i, length, e1, e2, e3, e4, -⟩ := findMonth_ofDayNumber day
  have hy : (ofDayNumber day).year = yearOf day := rfl
  simp [isValid, hy, e1, e2, e3, e4]

/-- The date of a day falls on that day. -/
theorem dayNumber_ofDayNumber (day : Int) : (ofDayNumber day).dayNumber = day := by
  obtain ⟨i, length, e1, -, -, -, e5⟩ := findMonth_ofDayNumber day
  have hy : (ofDayNumber day).year = yearOf day := rfl
  simp only [dayNumber, hy, e1, Nat.add_sub_cancel]
  omega

end Date

end CompilerDriver
